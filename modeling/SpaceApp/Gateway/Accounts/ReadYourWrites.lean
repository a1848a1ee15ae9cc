import SpaceApp.Foundation.Reach
import SpaceApp.Gateway.Accounts.StickyStore

/-! Reads and writes of one sticky store, interleaved at their awaits: does a read that
began after a binding was set answer with that binding?
-/

set_option autoImplicit false

namespace SpaceApp.Gateway.Accounts

open SpaceApp.Foundation

/-- A read that waits for storage. The code reads neither `held`, all that storage has held
for the key since, nor `expects`, the account set last before the read began, if none was
set since. -/
structure Find where
  keyHash : String
  now : ℚ
  held : List (Option GatewayStickyBinding)
  expects : Option String

structure Reply where
  keyHash : String
  expects : Option String
  accountId : Option String
  deriving DecidableEq, Repr

/-- The store, the storage behind it and what is under way between the two. The code reads
neither `bound`, the account each key was last set to, nor the replies. -/
structure StickyWorld where
  store : StickyStore := {}
  clock : ℚ
  storage : String → Option GatewayStickyBinding
  finds : List Find := []
  saving : List (List GatewayStickyBinding) := []
  bound : String → Option String := fun _ => none
  replies : List Reply := []

inductive StickyEvent where
  | get (keyHash : String)
  | set (keyHash accountId : String) (ttl : ℚ)
  | flush
  | answer (position : Nat) (row : Option GatewayStickyBinding) (ttl : ℚ)
  | saved (position : Nat) (exists_ : String → Bool)
  | saveFailed (position : Nat)
  | tick (now : ℚ)

namespace StickyWorld

def forget (keyHash : String) (find : Find) : Find :=
  if find.keyHash = keyHash then { find with expects := none } else find

def hold (storage : String → Option GatewayStickyBinding) (find : Find) : Find :=
  { find with held := storage find.keyHash :: find.held }

def reply (world : StickyWorld) (keyHash : String) (expects accountId : Option String) : StickyWorld :=
  { world with replies := { keyHash, expects, accountId } :: world.replies }

def writeRow (storage : String → Option GatewayStickyBinding) (row : GatewayStickyBinding) :
    String → Option GatewayStickyBinding :=
  Function.update storage row.keyHash (some row)

def writeRows (rows : List GatewayStickyBinding) (exists_ : String → Bool)
    (storage : String → Option GatewayStickyBinding) : String → Option GatewayStickyBinding :=
  (rows.filter fun row => exists_ row.accountId).foldl writeRow storage

def step (options : StickyOptions) (world : StickyWorld) : StickyEvent → StickyWorld
  | .get keyHash =>
      match world.store.get options keyHash world.clock with
      | .answered accountId => world.reply keyHash (world.bound keyHash) accountId
      | .askStorage =>
          { world with finds := world.finds ++ [{
              keyHash, now := world.clock, held := [world.storage keyHash], expects := world.bound keyHash }] }
  | .set keyHash accountId ttl =>
      { world with
        store := world.store.set options keyHash accountId world.clock ttl
        finds := world.finds.map (forget keyHash)
        bound := Function.update world.bound keyHash (some accountId) }
  | .flush =>
      let (store, rows) := world.store.flush
      { world with store, saving := if rows = [] then world.saving else world.saving ++ [rows] }
  | .answer position row ttl =>
      match world.finds[position]? with
      | none => world
      | some find =>
          let (store, accountId) := world.store.found find.keyHash find.now ttl row
          { world with store, finds := world.finds.eraseIdx position }.reply find.keyHash find.expects accountId
  | .saved position exists_ =>
      match world.saving[position]? with
      | none => world
      | some rows =>
          let storage := writeRows rows exists_ world.storage
          { world with storage, finds := world.finds.map (hold storage), saving := world.saving.eraseIdx position }
  | .saveFailed position => { world with saving := world.saving.eraseIdx position }
  | .tick now => { world with clock := now }

def start (world : StickyWorld) : Prop := ∃ clock storage, world = { clock, storage }

end StickyWorld

section

variable (keys : Finset String) (options : StickyOptions)

/-- What the store is promised: its keys are among `keys`, an answer is a failure or what storage held since
the read began, and no binding read is past its time. -/
def Promised (world : StickyWorld) : StickyEvent → Prop
  | .get keyHash =>
      keyHash ∈ keys ∧ ∀ cached, world.store.memory.get keyHash = some cached → world.clock < cached.expiresAt
  | .set keyHash _ _ => keyHash ∈ keys
  | .answer position row _ => row = none ∨ ∀ find, world.finds[position]? = some find → row ∈ find.held
  | .tick now => world.clock ≤ now
  | _ => True

/-- No read brings back a row for a key that has meanwhile been set to another account. -/
def Fresh (world : StickyWorld) : StickyEvent → Prop
  | .answer position (some row) _ =>
      ∀ find, world.finds[position]? = some find →
        ∀ accountId, world.bound find.keyHash = some accountId → row.accountId = accountId
  | _ => True

def PromisedFresh (world : StickyWorld) (event : StickyEvent) : Prop :=
  Promised keys world event ∧ Fresh world event

/-- Every read between two sets of its key answers with what the first one set. -/
def ReadsItsWrites (world : StickyWorld) : Prop :=
  ∀ reply ∈ world.replies, ∀ accountId, reply.expects = some accountId → reply.accountId = some accountId

structure Bound (world : StickyWorld) : Prop where
  known : ∀ key ∈ world.store.memory.map, key ∈ keys
  asked : ∀ find ∈ world.finds, find.keyHash ∈ keys
  held : ∀ keyHash accountId, world.bound keyHash = some accountId →
    ∃ cached, world.store.memory.get keyHash = some cached ∧ cached.accountId = accountId
  silent : ∀ find ∈ world.finds, find.expects = none
  replies : ReadsItsWrites world

end

section

variable {keys : Finset String} {options : StickyOptions} {world : StickyWorld}

theorem start_bound (start : StickyWorld.start world) : Bound keys world := by
  obtain ⟨clock, storage, rfl⟩ := start
  exact {
    known := fun key member => absurd member (AList.notMem_empty key)
    asked := fun find member => absurd member List.not_mem_nil
    held := fun keyHash accountId set => by cases set
    silent := fun find member => absurd member List.not_mem_nil
    replies := fun reply member => absurd member List.not_mem_nil }

theorem get_remembered (options : StickyOptions) {store : StickyStore} {keyHash : String} {cached : Remembered} {now : ℚ}
    (remembered : store.memory.get keyHash = some cached) (valid : now < cached.expiresAt) :
    store.get options keyHash now = .answered (some cached.accountId) := by
  have kept : (some cached).filter (fun cached => decide (now < cached.expiresAt)) = some cached := by
    simp [Option.filter, valid]
  rw [StickyStore.get, remembered, kept]

theorem set_memory (store : StickyStore) (keyHash accountId : String) (now ttl : ℚ) :
    (store.set options keyHash accountId now ttl).memory =
      store.memory.set keyHash { accountId, expiresAt := now + ttl } := by
  unfold StickyStore.set
  split <;> rfl

theorem ReadsItsWrites.reply {keyHash : String} {expects accountId : Option String} (before : ReadsItsWrites world)
    (right : ∀ expected, expects = some expected → accountId = some expected) :
    ReadsItsWrites (world.reply keyHash expects accountId) := by
  intro given member expected wanted
  rcases List.mem_cons.mp member with rfl | member
  · exact right expected wanted
  · exact before given member expected wanted

section
variable (bound : Bound keys world)

include bound

theorem Bound.get {keyHash : String}
    (promised : Promised keys world (.get keyHash)) : Bound keys (world.step options (.get keyHash)) := by
  obtain ⟨among, unexpired⟩ := promised
  simp only [StickyWorld.step]
  -- a bound key is in memory, so its read never asks storage
  cases asked : world.store.get options keyHash world.clock with
  | answered accountId =>
    refine { bound with replies := bound.replies.reply ?_ }
    intro expected wanted
    obtain ⟨cached, remembered, same⟩ := bound.held keyHash expected wanted
    rw [get_remembered options remembered (unexpired cached remembered)] at asked
    cases asked
    rw [same]
  | askStorage =>
    have unbound : world.bound keyHash = none := by
      by_contra set
      obtain ⟨expected, wanted⟩ := Option.ne_none_iff_exists'.mp set
      obtain ⟨cached, remembered, _⟩ := bound.held keyHash expected wanted
      rw [get_remembered options remembered (unexpired cached remembered)] at asked
      cases asked
    refine { bound with asked := ?_, silent := ?_ }
    · intro find member
      rcases List.mem_append.mp member with member | member
      · exact bound.asked find member
      · rw [List.mem_singleton.mp member]
        exact among
    · intro find member
      rcases List.mem_append.mp member with member | member
      · exact bound.silent find member
      · rw [List.mem_singleton.mp member]
        exact unbound

section

variable (few : keys.card ≤ memoryLimit)

include few

/-- Memory takes an entry of a known key and keeps all others. -/
theorem Bound.remember {keyHash : String} (among : keyHash ∈ keys) (cached : Remembered)
    (expected : String → Option String) (same : expected keyHash = none ∨ expected keyHash = some cached.accountId)
    (others : ∀ other, other ≠ keyHash → expected other = world.bound other) :
    (∀ key ∈ (world.store.memory.set keyHash cached).map, key ∈ keys) ∧
      ∀ other accountId, expected other = some accountId →
        ∃ found, (world.store.memory.set keyHash cached).get other = some found ∧ found.accountId = accountId := by
  have kept := BoundedMap.set_map few bound.known among cached
  constructor
  · intro key member
    rw [kept, AList.mem_insert] at member
    rcases member with rfl | member
    · exact among
    · exact bound.known key member
  · intro other accountId set
    by_cases here : other = keyHash
    · subst here
      refine ⟨cached, BoundedMap.get_set_same kept, ?_⟩
      rcases same with none_ | same
      · rw [none_] at set
        cases set
      · rw [same] at set
        exact Option.some.inj set
    · rw [others other here] at set
      rw [BoundedMap.get_set_other kept here]
      exact bound.held other accountId set

theorem Bound.set {keyHash : String} (among : keyHash ∈ keys) (accountId : String) (ttl : ℚ) :
    Bound keys (world.step options (.set keyHash accountId ttl)) := by
  obtain ⟨known, held⟩ := bound.remember few among { accountId, expiresAt := world.clock + ttl }
    (Function.update world.bound keyHash (some accountId)) (.inr (by simp))
    fun other apart => by simp [apart]
  simp only [StickyWorld.step]
  refine { known := ?_, asked := ?_, held := ?_, silent := ?_, replies := bound.replies }
  · rw [set_memory]
    exact known
  · intro find member
    obtain ⟨before, earlier, rfl⟩ := List.mem_map.mp member
    unfold StickyWorld.forget
    split <;> exact bound.asked before earlier
  · rw [set_memory]
    exact held
  · intro find member
    obtain ⟨before, earlier, rfl⟩ := List.mem_map.mp member
    unfold StickyWorld.forget
    split
    · rfl
    · exact bound.silent before earlier

theorem Bound.answer {position : Nat} {row : Option GatewayStickyBinding} {ttl : ℚ}
    (fresh : Fresh world (.answer position row ttl)) : Bound keys (world.step options (.answer position row ttl)) := by
  simp only [StickyWorld.step]
  cases waiting : world.finds[position]? with
  | none => exact bound
  | some find =>
    have among := List.mem_of_getElem? waiting
    have silent := bound.silent find among
    have others : ∀ other ∈ world.finds.eraseIdx position, other ∈ world.finds :=
      fun other member => List.mem_of_mem_eraseIdx member
    have right : ∀ accountId expected, find.expects = some expected → accountId = some expected := by
      intro accountId expected wanted
      rw [silent] at wanted
      cases wanted
    cases row with
    | none =>
      exact {
        __ := bound
        asked := fun other member => bound.asked other (others other member)
        silent := fun other member => bound.silent other (others other member)
        replies := bound.replies.reply (right _) }
    | some stored =>
      have agrees : world.bound find.keyHash = none ∨ world.bound find.keyHash = some stored.accountId := by
        cases set : world.bound find.keyHash with
        | none => exact .inl rfl
        | some accountId => exact .inr (by rw [fresh find waiting accountId set])
      obtain ⟨known, held⟩ := bound.remember few (bound.asked find among)
        { accountId := stored.accountId, expiresAt := stored.expiresAt.getD (find.now + ttl) }
        world.bound agrees fun _ _ => rfl
      exact {
        known
        asked := fun other member => bound.asked other (others other member)
        held
        silent := fun other member => bound.silent other (others other member)
        replies := bound.replies.reply (right _) }

theorem Bound.step {event : StickyEvent} (allowed : PromisedFresh keys world event) :
    Bound keys (world.step options event) := by
  cases event with
  | get keyHash => exact bound.get allowed.1
  | set keyHash accountId ttl => exact bound.set few allowed.1 accountId ttl
  | flush => exact { bound with }
  | answer position row ttl => exact bound.answer few allowed.2
  | saved position exists_ =>
    simp only [StickyWorld.step]
    cases rows : world.saving[position]? with
    | none => exact bound
    | some batch =>
      refine { bound with asked := ?_, silent := ?_ }
      · intro find member
        obtain ⟨before, earlier, rfl⟩ := List.mem_map.mp member
        exact bound.asked before earlier
      · intro find member
        obtain ⟨before, earlier, rfl⟩ := List.mem_map.mp member
        exact bound.silent before earlier
  | saveFailed position => exact { bound with }
  | tick now => exact { bound with }

end

end

end

/-- In every interleaving in which no read brings back a row older than its key's binding, a
read answers with the account set last before it. -/
theorem fresh_reads_their_writes (keys : Finset String) (few : keys.card < memoryLimit) (options : StickyOptions)
    {world : StickyWorld} (reached : Reached StickyWorld.start (PromisedFresh keys) (StickyWorld.step options) world) :
    ReadsItsWrites world := by
  have bound : Bound keys world := by
    refine reached.invariant (fun _ start => start_bound start) ?_
    intro before event holds allowed
    exact holds.step few.le allowed
  exact bound.replies

def sampleOptions : StickyOptions where
  provider := "CODEX"
  kind := .stickyThread

def sampleRow : GatewayStickyBinding where
  keyHash := "k"
  kind := .stickyThread
  provider := "CODEX"
  accountId := "b"
  expiresAt := some 86400000

def sampleSticky : StickyWorld where
  clock := 1000
  storage := fun keyHash => if keyHash = "k" then some sampleRow else none

def stickyRun (events : List StickyEvent) : StickyWorld := events.foldl (StickyWorld.step sampleOptions) sampleSticky

def bindAnew : StickyEvent := .set "k" "a" 86400000

theorem fresh_reads_their_writes_sample : ReadsItsWrites (stickyRun [bindAnew, .get "k"]) ∧
      (stickyRun [bindAnew, .get "k"]).replies = [{ keyHash := "k", expects := some "a", accountId := some "a" }] := by
  refine ⟨fresh_reads_their_writes {"k"} (by decide) sampleOptions ?_, by decide +kernel⟩
  refine Reached.run (.start ⟨1000, _, rfl⟩) ⟨⟨?_, trivial⟩, ⟨?_, trivial⟩, trivial⟩
  · exact Finset.mem_singleton_self _
  · refine ⟨Finset.mem_singleton_self _, ?_⟩
    intro cached remembered
    cases remembered
    decide +kernel

/-- A read asks storage, its key is bound to another account, and the row it asked for arrives. -/
theorem stale_read_unbinds :
    ¬ ∀ (keys : Finset String) (options : StickyOptions) (world : StickyWorld), keys.card < memoryLimit →
      Reached StickyWorld.start (Promised keys) (StickyWorld.step options) world → ReadsItsWrites world := by
  intro always
  have reached : Reached StickyWorld.start (Promised {"k"}) (StickyWorld.step sampleOptions)
      (stickyRun [.get "k", bindAnew, .answer 0 (some sampleRow) 86400000, .get "k"]) := by
    refine Reached.run (.start ⟨1000, _, rfl⟩) ⟨?_, ?_, ?_, ?_, trivial⟩
    · refine ⟨Finset.mem_singleton_self _, ?_⟩
      intro cached remembered
      cases remembered
    · exact Finset.mem_singleton_self _
    · refine .inr fun find waiting => ?_
      cases waiting
      exact List.mem_singleton_self _
    · refine ⟨Finset.mem_singleton_self _, ?_⟩
      intro cached remembered
      cases remembered
      decide +kernel
  have replied : { keyHash := "k", expects := some "a", accountId := some "b" } ∈
      (stickyRun [.get "k", bindAnew, .answer 0 (some sampleRow) 86400000, .get "k"]).replies := by
    decide +kernel
  have right := always {"k"} sampleOptions _ (by decide) reached _ replied "a" rfl
  exact absurd right (by decide)

end SpaceApp.Gateway.Accounts
