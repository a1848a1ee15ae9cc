import SpaceApp.Foundation.Reach
import SpaceApp.Vault.Protection

/-! A fence is not lost: the tabs of the protects that returned true stay covered until a release saw their pages gone. -/

set_option autoImplicit false

namespace SpaceApp.Vault.Protection

open SpaceApp.Foundation

section

variable (world : World)

/-- A release saw the page of the tab gone, as this protect or a later one of the tab fenced it, in an answer it got after the
protect began. -/
def Seen (index : Nat) (write : Write) : Prop :=
  ∃ observation ∈ world.observations, write.began < observation.answered ∧
    ∃ later other, index ≤ later ∧ world.writes[later]? = some other ∧ other.tab = observation.tab ∧
      other.tab.targetId = write.tab.targetId

/-- The fences of the protects that returned true. -/
def Held : Prop :=
  ∀ index ∈ world.returned, ∃ write, world.writes[index]? = some write ∧
    ((∃ tab ∈ world.fenced, tab.targetId = write.tab.targetId) ∨ Seen world index write)

/-- The fence holds the tab as this protect or a later one of it wrote it. -/
def Covered (index : Nat) (write : Write) : Prop :=
  ∃ later other, index ≤ later ∧ world.writes[later]? = some other ∧ other.tab ∈ world.fenced ∧
    other.tab.targetId = write.tab.targetId

end

def Call.judged : Call → Option Judged
  | .release _ (.removing _ judged) => some judged
  | .release _ (.writing _ _ judged) => some judged
  | _ => none

/-- What the call judged gone is among the observations. -/
def Call.Logged (call : Call) (observations : List Observation) : Prop :=
  ∀ judged, call.judged = some judged → ∀ tab ∈ judged.gone, { tab, answered := judged.answered } ∈ observations

/-- Which of the writes a protect that is about to return true was. -/
def Call.wrote : Call → Option Nat
  | .protect _ _ _ _ (.wrote _ write) => write
  | _ => none

structure Guarded (world : World) : Prop where
  kept : ∀ index write, world.writes[index]? = some write → Covered world index write ∨ Seen world index write
  logged : ∀ name call, world.calls name = some call → call.Logged world.observations
  wrote : ∀ name call index, world.calls name = some call → call.wrote = some index → index < world.writes.length
  returned : ∀ index ∈ world.returned, index < world.writes.length

/-- The tab may leave the fence: it stands as the release saw it gone, and no protect of it that has written began after the
answer. -/
def mayLeave (world : World) (judged : Judged) (tab : FencedTab) : Bool :=
  judged.gone.contains tab && world.writes.all fun write => write.tab.targetId ≠ tab.targetId || write.began < judged.answered

/-- A protect writes a fence with every tab of the stored one, and a release takes out of the stored one only what may leave. -/
def Allowed (world : World) : VaultEvent → Bool
  | .writes name answer enabled =>
    answer = .fails || match world.calls name with
      | some (.protect owner _ _ _ (.writing fill)) =>
        !world.upserts owner enabled ||
          world.fenced.all fun tab => tab.targetId = fill.targetId || (vaultFencedTabs fill).contains tab
      | some (.release _ (.writing owner fill judged)) =>
        !world.upserts owner enabled ||
          world.fenced.all fun tab => (vaultFencedTabs fill).contains tab || mayLeave world judged tab
      | _ => true
  | .deletes name answer =>
    answer = .fails || match world.calls name with
      | some (.release _ (.removing owner judged)) => !world.removes owner || world.fenced.all (mayLeave world judged)
      | _ => true
  | _ => true

section

variable {world : World}

section
variable (guarded : Guarded world)

include guarded

theorem Guarded.wait (name : Nat) {next : Option Call}
    (logged : ∀ call, next = some call → call.Logged world.observations)
    (wrote : ∀ call index, next = some call → call.wrote = some index → index < world.writes.length) :
    Guarded (world.wait name next) := by
  refine { guarded with logged := fun other call at_ => ?_, wrote := fun other call index at_ => ?_ }
  · simp only [World.wait, Function.update_apply] at at_
    split at at_
    · exact logged call at_
    · exact guarded.logged other call at_
  · simp only [World.wait, Function.update_apply] at at_
    split at at_
    · exact wrote call index at_
    · exact guarded.wrote other call index at_

theorem Guarded.ends (name : Nat) : Guarded (world.wait name none) :=
  guarded.wait name (fun _ none_ => absurd none_.symm (Option.some_ne_none _))
    fun _ _ none_ => absurd none_.symm (Option.some_ne_none _)

theorem Guarded.goesOn (name : Nat) {call : Call} (judged : call.judged = none) (wrote : call.wrote = none) :
    Guarded (world.wait name (some call)) := by
  refine guarded.wait name (fun other at_ judged_ is => ?_) fun other index at_ is => ?_
  · cases at_
    rw [judged] at is
    cases is
  · cases at_
    rw [wrote] at is
    cases is

theorem Guarded.start (name : Nat) {call : Call} (judged : call.judged = none) (wrote : call.wrote = none) :
    Guarded (world.start name call) := by
  unfold World.start
  split
  · exact guarded
  · exact guarded.goesOn name judged wrote

theorem Guarded.notes (cache : Option (Option Entry × ℤ)) (checked : Option ℤ) :
    Guarded { world with cache, checked } :=
  { guarded with }

theorem Guarded.returns (cache : Option (Option Entry × ℤ)) (name : Nat) {index : Nat}
    (within : index < world.writes.length) :
    Guarded { ({ world with cache } : World).wait name none with returned := world.returned ++ [index] } := by
  have passed := (guarded.notes cache world.checked).ends name
  refine { passed with returned := fun other among => ?_ }
  rcases List.mem_append.mp among with before | last
  · exact guarded.returned other before
  · rw [List.mem_singleton.mp last]
    exact within

theorem Guarded.observe (more : List Observation) :
    Guarded { world with observations := world.observations ++ more } := by
  refine { guarded with kept := fun index write at_ => ?_, logged := fun name call at_ judged is tab among => ?_ }
  · rcases guarded.kept index write at_ with covered | ⟨observation, among, seen⟩
    · exact .inl covered
    · exact .inr ⟨observation, List.mem_append_left more among, seen⟩
  · exact List.mem_append_left more (guarded.logged name call at_ judged is tab among)

theorem Guarded.judge (name : Nat) (throttled : Bool) (owner : String) (fill : FenceFill)
    (live : VaultHostTarget) (pages : Option (List VaultOpenPage)) (answered : Nat) :
    Guarded (world.judge name throttled owner fill live pages answered) := by
  have seen := guarded.observe (((vaultFencedTabs fill).filter fun tab => vaultFillPageGone tab live pages).map
    fun tab => ({ tab, answered } : Observation))
  unfold World.judge
  split
  · refine seen.wait name (fun call at_ judged is tab among => ?_) fun call index at_ is => ?_
    · cases at_
      cases is
      exact List.mem_append_right _ (List.mem_map.mpr ⟨tab, among, rfl⟩)
    · cases at_
      cases is
  · split
    · refine seen.wait name (fun call at_ judged is tab among => ?_) fun call index at_ is => ?_
      · cases at_
        cases is
        exact List.mem_append_right _ (List.mem_map.mpr ⟨tab, among, rfl⟩)
      · cases at_
        cases is
    · exact seen.ends name

theorem Guarded.leave {judged : Judged}
    (logged : ∀ tab ∈ judged.gone, { tab, answered := judged.answered } ∈ world.observations) (stored : Option Entry)
    (leaves : ∀ tab ∈ world.fenced, tab ∈ ({ world with stored } : World).fenced ∨ mayLeave world judged tab = true) :
    Guarded { world with stored } := by
  refine { guarded with kept := fun index write at_ => ?_ }
  rcases guarded.kept index write at_ with ⟨later, other, after, at_', fenced, same⟩ | seen
  · rcases leaves other.tab fenced with stays | may
    · exact .inl ⟨later, other, after, at_', stays, same⟩
    · refine .inr ⟨_, logged other.tab ?_, ?_, later, other, after, at_', rfl, same⟩
      · exact List.contains_iff_mem.mp (Bool.and_eq_true _ _ ▸ may : _ ∧ _).1
      · have before := List.all_eq_true.mp (Bool.and_eq_true _ _ ▸ may : _ ∧ _).2 write (List.mem_of_getElem? at_)
        simpa [same] using before
  · exact .inr seen

theorem Guarded.enter (owner : String) (fill : FenceFill) (began : Nat)
    (stays : ∀ tab ∈ world.fenced, tab.targetId = fill.targetId ∨ tab ∈ vaultFencedTabs fill) :
    Guarded { world with stored := some { owner, fill := some fill }, writes := world.writes ++ [{ tab := fill.toFencedTab, began }] } := by
  have newest : (world.writes ++ [({ tab := fill.toFencedTab, began } : Write)])[world.writes.length]? =
      some { tab := fill.toFencedTab, began } := by simp
  have older {index : Nat} {write : Write} (at_ : world.writes[index]? = some write) :
      (world.writes ++ [({ tab := fill.toFencedTab, began } : Write)])[index]? = some write := by
    rw [List.getElem?_append_left (List.getElem?_eq_some_iff.mp at_).1]
    exact at_
  refine ⟨fun index write at_ => ?_, guarded.logged, fun name call index at_ is => ?_, fun index among => ?_⟩
  · by_cases last : index < world.writes.length
    · rw [List.getElem?_append_left last] at at_
      rcases guarded.kept index write at_ with ⟨later, other, after, at_', fenced, same⟩ | ⟨observation, among, began_, later, other, after, at_', rest⟩
      · rcases stays other.tab fenced with target | tab
        · exact .inl ⟨world.writes.length, _, Nat.le_of_lt last, newest, List.mem_cons_self, target.symm.trans same⟩
        · exact .inl ⟨later, other, after, older at_', tab, same⟩
      · exact .inr ⟨observation, among, began_, later, other, after, older at_', rest⟩
    · have bound := (List.getElem?_eq_some_iff.mp at_).1
      simp only [List.length_append, List.length_singleton] at bound
      obtain rfl : index = world.writes.length := by omega
      rw [newest] at at_
      cases at_
      exact .inl ⟨world.writes.length, _, Nat.le_refl _, newest, List.mem_cons_self, rfl⟩
  · simp only [List.length_append, List.length_singleton]
    exact Nat.lt_succ_of_lt (guarded.wrote name call index at_ is)
  · simp only [List.length_append, List.length_singleton]
    exact Nat.lt_succ_of_lt (guarded.returned index among)

theorem Guarded.reads (name : Nat) (fails : Bool) (call : Call) : Guarded (world.readStored name fails call) := by
  unfold World.readStored
  split
  · cases fails <;> exact guarded.goesOn name rfl rfl
  · cases fails
    · exact guarded.goesOn name rfl rfl
    · exact guarded.ends name
  · cases fails
    · exact guarded.goesOn name rfl rfl
    · exact guarded.ends name
  · exact guarded

theorem Guarded.decides (config : Config) (name : Nat) (throttled : Bool) (now : ℤ) (entry : Option Entry) :
    Guarded (world.decide_ config name throttled now entry) := by
  unfold World.decide_
  split
  · exact guarded.ends name
  · refine guarded.wait name (fun call at_ judged is tab among => ?_) fun call index at_ is => ?_
    · cases at_
      cases is
      cases among
    · cases at_
      cases is
  · split
    · exact guarded.ends name
    · next owner fill _ =>
      have asks := guarded.goesOn name (rfl : (Call.release throttled (.asking owner fill)).judged = none) rfl
      exact asks.notes world.cache (some now)

theorem Guarded.resumes (config : Config) (name : Nat) (now : ℤ) {call : Call}
    (at_ : world.calls name = some call) : Guarded (world.resume config name now call) := by
  unfold World.resume
  split
  · exact (guarded.notes _ world.checked).goesOn name rfl rfl
  · split
    · next write => exact guarded.returns _ name (guarded.wrote name _ write at_ rfl)
    · exact guarded.ends name
  · exact (guarded.notes _ world.checked).goesOn name rfl rfl
  · exact guarded.decides config name _ now _
  · exact (guarded.ends name).notes _ world.checked
  · split
    · exact (guarded.notes _ world.checked).ends name
    · exact guarded.ends name
  · exact (guarded.notes _ world.checked).ends name
  · exact guarded

theorem Guarded.answers (config : Config) (name : Nat) (live : Option VaultHostTarget) (call : Call) :
    Guarded (world.liveAnswer config name live call) := by
  unfold World.liveAnswer
  split
  · split
    · exact guarded.ends name
    · split
      · exact guarded.goesOn name rfl rfl
      · exact guarded.judge name _ _ _ _ none _
  · exact guarded

theorem Guarded.writes (name : Nat) (answer : Answer) (enabled : Bool) {call : Call}
    (at_ : world.calls name = some call) (allowed : Allowed world (.writes name answer enabled) = true) :
    Guarded (world.write name answer enabled call) := by
  unfold World.write
  split
  · next owner target viewer began fill =>
    split
    · exact guarded.ends name
    · next takes =>
      dsimp only
      split
      · next upserts =>
        have stays : ∀ tab ∈ world.fenced, tab.targetId = fill.targetId ∨ tab ∈ vaultFencedTabs fill := by
          simpa [Allowed, takes, at_, upserts] using allowed
        have entered := guarded.enter owner fill began stays
        split
        · refine entered.wait name (fun call_ is judged judges => ?_) fun call_ index is wrote => ?_
          · cases is
            cases judges
          · cases is
            cases wrote
            simp
        · exact entered.ends name
      · split
        · exact guarded.goesOn name rfl rfl
        · exact guarded.ends name
  · next throttled owner fill judged =>
    split
    · exact guarded.ends name
    · next takes =>
      have left : Guarded { world with
          stored := if world.upserts owner enabled then some { owner, fill := some fill } else world.stored } := by
        refine guarded.leave (guarded.logged name _ at_ judged rfl) _ fun tab fenced => ?_
        by_cases upserts : world.upserts owner enabled = true
        · have may : ∀ tab ∈ world.fenced, tab ∈ vaultFencedTabs fill ∨ mayLeave world judged tab = true := by
            simpa [Allowed, takes, at_, upserts] using allowed
          simp only [upserts, if_true]
          exact may tab fenced
        · simp only [upserts]
          exact .inl fenced
      by_cases answered : answer = .answers
      · simp only [if_pos answered]
        exact left.goesOn name rfl rfl
      · simp only [if_neg answered]
        exact left.ends name
  · exact guarded

theorem Guarded.deletes (name : Nat) (answer : Answer) {call : Call} (at_ : world.calls name = some call)
    (allowed : Allowed world (.deletes name answer) = true) : Guarded (world.delete name answer call) := by
  unfold World.delete
  split
  · next throttled owner judged =>
    split
    · exact guarded.ends name
    · next takes =>
      have left : Guarded { world with stored := if world.removes owner then none else world.stored } := by
        refine guarded.leave (guarded.logged name _ at_ judged rfl) _ fun tab fenced => ?_
        by_cases removes : world.removes owner = true
        · have may : ∀ tab ∈ world.fenced, mayLeave world judged tab = true := by
            simpa [Allowed, takes, at_, removes] using allowed
          exact .inr (may tab fenced)
        · simp only [removes]
          exact .inl fenced
      by_cases answered : answer = .answers
      · simp only [if_pos answered]
        exact left.goesOn name rfl rfl
      · simp only [if_neg answered]
        exact left.ends name
  · exact guarded

theorem Guarded.step (config : Config) {event : VaultEvent} (allowed : Allowed world event = true) :
    Guarded (world.step config event) := by
  have acts : Guarded (world.act config event) := by
    cases event with
    | protects name owner target viewer now =>
      refine guarded.start name rfl ?_
      unfold World.protectStart
      cases world.hit now <;> rfl
    | releases name throttled now =>
      refine guarded.start name ?_ rfl
      unfold World.releaseStart
      cases world.hit now <;> rfl
    | looks name now =>
      show Guarded (if (world.hit now).isSome then world else world.start name (.look none))
      split
      · exact guarded
      · exact guarded.start name rfl rfl
    | reads name fails =>
      show Guarded ((world.calls name).elim world _)
      cases world.calls name with
      | none => exact guarded
      | some call => exact guarded.reads name fails call
    | resumes name now =>
      show Guarded ((world.calls name).elim world _)
      cases at_ : world.calls name with
      | none => exact guarded
      | some call => exact guarded.resumes config name now at_
    | answers name live =>
      show Guarded ((world.calls name).elim world _)
      cases world.calls name with
      | none => exact guarded
      | some call => exact guarded.answers config name live call
    | lists name pages =>
      show Guarded ((world.calls name).elim world _)
      cases world.calls name with
      | none => exact guarded
      | some call =>
        dsimp only [Option.elim]
        unfold World.pagesAnswer
        split
        · exact guarded.judge name _ _ _ _ pages _
        · exact guarded
    | writes name answer enabled =>
      show Guarded ((world.calls name).elim world _)
      cases at_ : world.calls name with
      | none => exact guarded
      | some call => exact guarded.writes name answer enabled at_ allowed
    | deletes name answer =>
      show Guarded ((world.calls name).elim world _)
      cases at_ : world.calls name with
      | none => exact guarded
      | some call => exact guarded.deletes name answer at_ allowed
  exact { acts with }

theorem Guarded.held : Held world := by
  intro index among
  have within := guarded.returned index among
  have at_ : world.writes[index]? = some world.writes[index] := List.getElem?_eq_getElem within
  refine ⟨world.writes[index], at_, ?_⟩
  rcases guarded.kept index _ at_ with ⟨later, other, -, -, fenced, same⟩ | seen
  · exact .inl ⟨other.tab, fenced, same⟩
  · exact .inr seen

end

end

/-- No call waits, and no protect has written; a fence may be there. -/
def Idle (world : World) : Prop := (∀ name, world.calls name = none) ∧ world.writes = [] ∧ world.returned = []

namespace Sample

def config : Config := { live := true, pages := true }

def tab (targetId : String) : FencedTab := { targetId, origin := "https://example.com", document := some "doc1" }

def protects (name : Nat) (targetId : String) (now : ℤ) : List VaultEvent :=
  [.protects name "user:operator" (tab targetId) none now, .reads name false, .resumes name now, .writes name .answers true,
    .resumes name now]

def releases (name : Nat) (now : ℤ) : List VaultEvent :=
  [.releases name false now, .reads name false, .resumes name now, .resumes name now,
    .answers name (some {
      eligible := true
      reason := none
      targetId := some "t2"
      origin := some "https://example.com"
      document := some "doc1" }),
    .lists name (some [{ pageId := "t2", isActive := true }])]

def run (events : List VaultEvent) : World := events.foldl (fun world event => world.step config event) {}

def released : List VaultEvent := protects 1 "t1" 0 ++ releases 2 10000 ++ [.deletes 2 .answers]

/-- The second tab is protected while the release of the first is about to delete the fence. -/
def overtaken : List VaultEvent := protects 1 "t1" 0 ++ releases 2 10000 ++ protects 3 "t2" 10000 ++ [.deletes 2 .answers]

end Sample

end SpaceApp.Vault.Protection
