import Mathlib.Data.Int.Notation
import Mathlib.Logic.Function.Basic

/-! The fence of one pane (`vault/protection.ts`): the tabs it covers, and the calls that protect, look and release.

A repository call takes effect at once, or fails, or takes effect and fails; its caller goes on later. Times are milliseconds.
-/

set_option autoImplicit false

namespace SpaceApp.Vault.Protection

structure FencedTab where
  targetId : String
  origin : String
  document : Option String
  viewer : Option String := none
  deriving DecidableEq

structure FenceFill extends FencedTab where
  also : List FencedTab
  deriving DecidableEq

structure Entry where
  owner : String
  fill : Option FenceFill
  deriving DecidableEq

structure VaultOpenPage where
  pageId : String
  isActive : Bool
  deriving DecidableEq

structure VaultHostTarget where
  eligible : Bool
  reason : Option String
  targetId : Option String
  origin : Option String
  document : Option String
  deriving DecidableEq

def MAX_FENCED_TABS : Nat := 50

def CACHE_MS : ℤ := 5000

def RELEASE_CHECK_MS : ℤ := 2000

/-- What the live page says of the tab, where the tab is not known to be out of view. -/
def shownGone (tab : FencedTab) (live : VaultHostTarget) (listed : Bool) : Bool :=
  if !live.eligible then live.reason = some "NO_WEB_ORIGIN" && (listed || live.targetId = some tab.targetId)
  else if live.targetId ≠ some tab.targetId then false
  else live.origin ≠ some tab.origin || (tab.document.isSome && live.document.isSome && live.document ≠ tab.document)

/-- The page of the tab is gone: closed, or the tab shows another document, origin or no web page. -/
def vaultFillPageGone (tab : FencedTab) (live : VaultHostTarget) (pages : Option (List VaultOpenPage)) : Bool :=
  match pages with
  | none => shownGone tab live false
  | some pages =>
    match pages.find? fun page => page.pageId = tab.targetId with
    | none => true
    | some page => page.isActive && shownGone tab live true

def vaultFencedTabs (fill : FenceFill) : List FencedTab := fill.toFencedTab :: fill.also

/-- A target next to the tabs that are covered already. -/
def mergedFill (previous : Option FenceFill) (target : FencedTab) (viewer : Option String) : FenceFill :=
  let earlier := (previous.elim [] vaultFencedTabs).filter fun tab => tab.targetId ≠ target.targetId
  { target with
    viewer
    also := earlier.take MAX_FENCED_TABS }

inductive ProtectStage where
  | reading
  | read (entry : Option Entry)
  | writing (fill : FenceFill)
  /-- What it returns, and which of the writes it was. -/
  | wrote (fill : FenceFill) (write : Option Nat)
  deriving DecidableEq

/-- What a release has seen of the tabs it read: those that are gone, by an answer of that time. -/
structure Judged where
  gone : List FencedTab
  answered : Nat
  deriving DecidableEq

inductive ReleaseStage where
  | reading
  | read (entry : Option Entry)
  | known (entry : Option Entry)
  | asking (owner : String) (fill : FenceFill)
  | listing (owner : String) (fill : FenceFill) (live : VaultHostTarget) (answered : Nat)
  | removing (owner : String) (judged : Judged)
  | removed (removed : Bool)
  | writing (owner : String) (fill : FenceFill) (judged : Judged)
  | wrote (owner : String) (fill : FenceFill) (ok : Bool)
  deriving DecidableEq

inductive Call where
  | protect (owner : String) (target : FencedTab) (viewer : Option String) (began : Nat) (stage : ProtectStage)
  | release (throttled : Bool) (stage : ReleaseStage)
  /-- `ownerOf`, `viewerOf` and `fencedTargets`, while they read; none: the read has not taken effect. -/
  | look (read : Option (Option Entry))
  deriving DecidableEq

/-- How a repository call goes; one that is lost took effect. -/
inductive Answer where
  | answers | fails | lost
  deriving DecidableEq

structure Write where
  tab : FencedTab
  began : Nat
  deriving DecidableEq

/-- A release saw the page of this tab gone, in an answer of that time. -/
structure Observation where
  tab : FencedTab
  answered : Nat
  deriving DecidableEq

structure World where
  stored : Option Entry := none
  cache : Option (Option Entry × ℤ) := none
  checked : Option ℤ := none
  calls : Nat → Option Call := fun _ => none
  /-- What no step reads: the steps so far, the protects' writes, those that returned true, and what releases saw. -/
  steps : Nat := 0
  writes : List Write := []
  returned : List Nat := []
  observations : List Observation := []

/-- Whether the host can be asked for the live page, and for the open tabs. -/
structure Config where
  live : Bool
  pages : Bool
  deriving DecidableEq

inductive VaultEvent where
  | protects (name : Nat) (owner : String) (target : FencedTab) (viewer : Option String) (now : ℤ)
  | releases (name : Nat) (throttled : Bool) (now : ℤ)
  | looks (name : Nat) (now : ℤ)
  | reads (name : Nat) (fails : Bool)
  | resumes (name : Nat) (now : ℤ)
  | answers (name : Nat) (live : Option VaultHostTarget)
  | lists (name : Nat) (pages : Option (List VaultOpenPage))
  | writes (name : Nat) (answer : Answer) (enabled : Bool)
  | deletes (name : Nat) (answer : Answer)
  deriving DecidableEq

namespace World

def wait (world : World) (name : Nat) (call : Option Call) : World :=
  { world with calls := Function.update world.calls name call }

def hit (world : World) (now : ℤ) : Option (Option Entry) :=
  world.cache.bind fun (entry, at_) => if now - at_ < CACHE_MS then some entry else none

def caches (world : World) (entry : Option Entry) (now : ℤ) : World := { world with cache := some (entry, now) }

/-- The upsert touches a row of the same owner only. -/
def upserts (world : World) (owner : String) (enabled : Bool) : Bool :=
  enabled && world.stored.all fun entry => entry.owner = owner

/-- The delete finds a row of the owner. -/
def removes (world : World) (owner : String) : Bool := world.stored.any fun entry => entry.owner = owner

def start (world : World) (name : Nat) (call : Call) : World :=
  if (world.calls name).isSome then world else world.wait name (some call)

def protectStart (world : World) (owner : String) (target : FencedTab) (viewer : Option String) (now : ℤ) : Call :=
  .protect owner target viewer world.steps (match world.hit now with
    | some entry => .writing (mergedFill (entry.bind (·.fill)) target viewer)
    | none => .reading)

def releaseStart (world : World) (throttled : Bool) (now : ℤ) : Call :=
  .release throttled (match world.hit now with
    | some entry => .known entry
    | none => .reading)

/-- `protectedPane` answers, or fails; a protect that cannot read goes on without. -/
def readStored (world : World) (name : Nat) (fails : Bool) : Call → World
  | .protect owner target viewer began .reading =>
    world.wait name (some (.protect owner target viewer began
      (if fails then .writing (mergedFill none target viewer) else .read world.stored)))
  | .release throttled .reading => world.wait name (if fails then none else some (.release throttled (.read world.stored)))
  | .look none => world.wait name (if fails then none else some (.look (some world.stored)))
  | _ => world

/-- A release that knows the entry: nothing to release, a fence without a page, or the host is asked. -/
def decide_ (world : World) (config : Config) (name : Nat) (throttled : Bool) (now : ℤ) : Option Entry → World
  | none => world.wait name none
  | some { owner, fill := none } => world.wait name (some (.release throttled (.removing owner { gone := [], answered := world.steps })))
  | some { owner, fill := some fill } =>
    if !config.live || (throttled && now - world.checked.getD 0 < RELEASE_CHECK_MS) then world.wait name none
    else { world.wait name (some (.release throttled (.asking owner fill))) with checked := some now }

def resume (world : World) (config : Config) (name : Nat) (now : ℤ) : Call → World
  | .protect owner target viewer began (.read entry) =>
    (world.caches entry now).wait name
      (some (.protect owner target viewer began (.writing (mergedFill (entry.bind (·.fill)) target viewer))))
  | .protect owner _ _ _ (.wrote fill write) =>
    match write with
    | some write => { (world.caches (some { owner, fill := some fill }) now).wait name none with returned := world.returned ++ [write] }
    | none => world.wait name none
  | .release throttled (.read entry) => (world.caches entry now).wait name (some (.release throttled (.known entry)))
  | .release throttled (.known entry) => world.decide_ config name throttled now entry
  | .release _ (.removed removed) => { world.wait name none with cache := if removed then none else world.cache }
  | .release _ (.wrote owner fill ok) =>
    if ok then (world.caches (some { owner, fill := some fill }) now).wait name none else world.wait name none
  | .look (some entry) => (world.caches entry now).wait name none
  | _ => world

/-- Each tab of the fence as it was read is gone or left. -/
def judge (world : World) (name : Nat) (throttled : Bool) (owner : String) (fill : FenceFill) (live : VaultHostTarget)
    (pages : Option (List VaultOpenPage)) (answered : Nat) : World :=
  let gone := (vaultFencedTabs fill).filter fun tab => vaultFillPageGone tab live pages
  let seen := { world with observations := world.observations ++ gone.map fun tab => ({ tab, answered } : Observation) }
  match (vaultFencedTabs fill).filter fun tab => !vaultFillPageGone tab live pages with
  | [] => seen.wait name (some (.release throttled (.removing owner { gone, answered })))
  | latest :: also =>
    if (latest :: also).length < (vaultFencedTabs fill).length then
      seen.wait name (some (.release throttled (.writing owner { latest with also } { gone, answered })))
    else seen.wait name none

def liveAnswer (world : World) (config : Config) (name : Nat) (live : Option VaultHostTarget) : Call → World
  | .release throttled (.asking owner fill) =>
    match live with
    | none => world.wait name none
    | some live =>
      if config.pages then world.wait name (some (.release throttled (.listing owner fill live world.steps)))
      else world.judge name throttled owner fill live none world.steps
  | _ => world

def pagesAnswer (world : World) (name : Nat) (pages : Option (List VaultOpenPage)) : Call → World
  | .release throttled (.listing owner fill live answered) => world.judge name throttled owner fill live pages answered
  | _ => world

def write (world : World) (name : Nat) (answer : Answer) (enabled : Bool) : Call → World
  | .protect owner target viewer began (.writing fill) =>
    if answer = .fails then world.wait name none
    else
      let next := if answer = .answers then some else fun _ => none
      if world.upserts owner enabled then
        { world.wait name (next (.protect owner target viewer began (.wrote fill (some world.writes.length)))) with
          stored := some { owner, fill := some fill }
          writes := world.writes ++ [{ tab := fill.toFencedTab, began }] }
      else world.wait name (next (.protect owner target viewer began (.wrote fill none)))
  | .release throttled (.writing owner fill _) =>
    if answer = .fails then world.wait name none
    else
      let next := if answer = .answers then some (.release throttled (.wrote owner fill (world.upserts owner enabled))) else none
      { world.wait name next with
        stored := if world.upserts owner enabled then some { owner, fill := some fill } else world.stored }
  | _ => world

def delete (world : World) (name : Nat) (answer : Answer) : Call → World
  | .release throttled (.removing owner _) =>
    if answer = .fails then world.wait name none
    else
      let next := if answer = .answers then some (.release throttled (.removed (world.removes owner))) else none
      { world.wait name next with stored := if world.removes owner then none else world.stored }
  | _ => world

def act (world : World) (config : Config) : VaultEvent → World
  | .protects name owner target viewer now => world.start name (world.protectStart owner target viewer now)
  | .releases name throttled now => world.start name (world.releaseStart throttled now)
  | .looks name now => if (world.hit now).isSome then world else world.start name (.look none)
  | .reads name fails => (world.calls name).elim world (world.readStored name fails)
  | .resumes name now => (world.calls name).elim world (world.resume config name now)
  | .answers name live => (world.calls name).elim world (world.liveAnswer config name live)
  | .lists name pages => (world.calls name).elim world (world.pagesAnswer name pages)
  | .writes name answer enabled => (world.calls name).elim world (world.write name answer enabled)
  | .deletes name answer => (world.calls name).elim world (world.delete name answer)

def step (world : World) (config : Config) (event : VaultEvent) : World :=
  { world.act config event with steps := world.steps + 1 }

def fenced (world : World) : List FencedTab := (world.stored.bind (·.fill)).elim [] vaultFencedTabs

end World

end SpaceApp.Vault.Protection
