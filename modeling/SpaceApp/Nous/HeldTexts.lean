import Mathlib.Data.List.Dedup
import SpaceApp.Foundation.Reach
import SpaceApp.Nous.HeldQueues

/-! Held texts are not lost: where each of them is while holds and ticks run, and in what order they are delivered. -/

set_option autoImplicit false

namespace SpaceApp.Nous.HeldDispatch

open SpaceApp.Foundation

structure Holding (world : World) (id : Nat) (change : Change) : Prop where
  edit : ∃ text priority, change.edit = .hold id text priority
  apt : change.Apt (world.records change.owner change.target.paneId)
  drawn : id < world.drawn
  fresh : ∀ owner paneId, id ∉ world.held owner paneId

structure Orderly (world : World) : Prop where
  lines : ∀ owner paneId, Line (world.held owner paneId) (world.tried owner paneId) (world.records owner paneId)
    (world.failures owner paneId) (world.Settled owner paneId) paneId
  drawn : ∀ owner paneId, ∀ id ∈ world.held owner paneId, id < world.drawn
  holds : ∀ name id change, world.holds name = some (id, change) → Holding world id change
  apart : ∀ name other id change change_, world.holds name = some (id, change) → world.holds other = some (id, change_) →
    name = other
  accepted : ∀ accepted ∈ world.accepted, accepted.id ∈ world.held accepted.owner accepted.paneId
  tick : ∀ tick, world.tick = some tick → TickOk world.records world.failures world.arrivals tick

section

variable {world : World} {change : Change} {answer : Answer}

theorem call_records (world : World) (change : Change) (answer : Answer) : (world.call change answer).records =
    fun owner paneId => if owner = change.owner ∧ paneId = change.target.paneId then
      change.stored (world.records change.owner change.target.paneId) answer else world.records owner paneId := by
  unfold World.call
  dsimp only
  split
  · split <;> rfl
  · rfl

theorem call_idle (idle : change.writes (world.records change.owner change.target.paneId) answer = false) :
    world.call change answer = world := by
  have same : (fun owner paneId => if owner = change.owner ∧ paneId = change.target.paneId then
      world.records change.owner change.target.paneId else world.records owner paneId) = world.records := by
    funext owner paneId
    split
    · next at_ => rw [at_.1, at_.2]
    · rfl
  unfold World.call World.store
  dsimp only
  rw [stored_same idle]
  split
  · rw [if_neg (by rw [idle]; exact Bool.false_ne_true), same]
  · rw [same]

theorem call_hold {id : Nat} {text : List Char} {priority : HeldPriority} (edit : change.edit = .hold id text priority)
    (writes : change.writes (world.records change.owner change.target.paneId) answer = true) :
    world.call change answer =
      { world.store change.owner change.target.paneId (change.stored (world.records change.owner change.target.paneId) answer) with
        held := fun owner paneId =>
          if owner = change.owner ∧ paneId = change.target.paneId then world.held owner paneId ++ [id]
          else world.held owner paneId } := by
  unfold World.call
  rw [edit]
  dsimp only
  rw [if_pos writes]

theorem call_other (edit : ∀ id text priority, change.edit ≠ .hold id text priority) : world.call change answer =
      world.store change.owner change.target.paneId (change.stored (world.records change.owner change.target.paneId) answer) := by
  unfold World.call
  split
  · next at_ => exact (edit _ _ _ at_).elim
  · rfl

theorem Holding.idle {id : Nat} (holding : Holding world id change) {next : Change}
    (apt : next.Apt (world.records change.owner change.target.paneId)) (owner : next.owner = change.owner)
    (target : next.target = change.target) (edit : next.edit = change.edit) : Holding world id next := by
  refine { holding with edit := edit ▸ holding.edit, apt := ?_ }
  rw [owner, target]
  exact apt

section
variable (orderly : Orderly world)

include orderly

theorem Orderly.wait {name id : Nat} (holds : world.holds name = some (id, change))
    {hold : Option (Nat × Change)} (next : ∀ id_ change_, hold = some (id_, change_) → id_ = id ∧ Holding world id change_) :
    Orderly (world.wait name hold) := by
  have still (other id_ : Nat) (change_ : Change) (at_ : (world.wait name hold).holds other = some (id_, change_)) :
      Holding world id_ change_ ∧ ∃ before, world.holds other = some (id_, before) := by
    simp only [World.wait, Function.update_apply] at at_
    split at at_
    · next same =>
      obtain ⟨rfl, holding⟩ := next id_ change_ at_
      exact ⟨holding, change, same ▸ holds⟩
    · exact ⟨orderly.holds other id_ change_ at_, change_, at_⟩
  refine { orderly with holds := fun other id_ change_ at_ => ?_, apart := fun first second id_ change₁ change₂ one two => ?_ }
  · obtain ⟨holding, -⟩ := still other id_ change_ at_
    exact { holding with }
  · obtain ⟨-, before, first_⟩ := still first id_ change₁ one
    obtain ⟨-, after, second_⟩ := still second id_ change₂ two
    exact orderly.apart first second id_ before after first_ second_

theorem Orderly.put {name id : Nat} (holds : world.holds name = some (id, change))
    (writes : change.writes (world.records change.owner change.target.paneId) answer = true) :
    Orderly ((world.call change answer).wait name none) ∧
      id ∈ (world.call change answer).held change.owner change.target.paneId := by
  have holding := orderly.holds name id change holds
  obtain ⟨text, priority, edit⟩ := holding.edit
  obtain ⟨now, stored⟩ := stored_new holding.apt writes
  have ids := stored_ids holding.apt writes
  rw [edit] at ids
  have records (owner paneId : String) : ∃ more, idsOf ((world.call change answer).records owner paneId) =
      idsOf (world.records owner paneId) ++ more := by
    rw [call_records]
    dsimp only
    split
    · next at_ =>
      rw [at_.1, at_.2]
      exact ⟨[id], ids⟩
    · exact ⟨[], (List.append_nil _).symm⟩
  have outrun (owner paneId : String) (other : Change) (apt : other.Apt (world.records owner paneId)) :
      other.Apt ((world.call change answer).records owner paneId) := by
    rw [call_records]
    dsimp only
    split
    · next at_ =>
      rw [at_.1, at_.2] at apt
      exact apt.outrun holding.apt
    · exact apt
  rw [call_hold edit writes] at records outrun ⊢
  refine ⟨⟨fun owner paneId => ?_, fun owner paneId other among => ?_, fun other id_ change_ at_ => ?_,
    fun first second id_ change₁ change₂ one two => ?_, fun accepted among => ?_, fun tick running => ?_⟩, ?_⟩
  · have line := orderly.lines owner paneId
    simp only [World.wait, World.store]
    by_cases here : owner = change.owner ∧ paneId = change.target.paneId
    · obtain ⟨rfl, rfl⟩ := here
      simp only [and_self, if_true]
      refine line.hold { id, text, priority, heldAt := now, attempts := 0 } (holding.fresh _ _) rfl ?_ ?_
      · rw [stored]
        simp only [itemsOf, Option.map_some, Option.getD_some, Change.next, edit, Edit.apply]
      · intro found at_
        rw [stored] at at_
        cases at_
        rfl
    · simp only [if_neg here]
      exact line
  · simp only [World.wait, World.store] at among ⊢
    split at among
    · rcases List.mem_append.mp among with before | last
      · exact orderly.drawn owner paneId other before
      · rw [List.mem_singleton.mp last]
        exact holding.drawn
    · exact orderly.drawn owner paneId other among
  · have before : other ≠ name ∧ world.holds other = some (id_, change_) := by
      simp only [World.wait, World.store, Function.update_apply] at at_
      split at at_
      · cases at_
      · next apart => exact ⟨apart, at_⟩
    have others := orderly.holds other id_ change_ before.2
    refine ⟨others.edit, outrun change_.owner change_.target.paneId change_ others.apt, others.drawn, fun owner paneId among => ?_⟩
    simp only [World.wait, World.store] at among
    split at among
    · rcases List.mem_append.mp among with earlier | last
      · exact others.fresh owner paneId earlier
      · rw [List.mem_singleton.mp last] at before
        exact before.1 (orderly.apart other name id change_ change before.2 holds)
    · exact others.fresh owner paneId among
  · have before (hold : Nat) (change_ : Change) (at_ : Function.update world.holds name none hold = some (id_, change_)) :
        world.holds hold = some (id_, change_) := by
      simp only [Function.update_apply] at at_
      split at at_
      · cases at_
      · exact at_
    exact orderly.apart first second id_ change₁ change₂ (before first change₁ one) (before second change₂ two)
  · have before := orderly.accepted accepted among
    simp only [World.wait, World.store]
    split
    · exact List.mem_append_left _ before
    · exact before
  · exact (orderly.tick tick running).mono records (fun _ _ _ => Nat.le_refl _) (fun _ _ _ member => member) outrun
  · simp only [and_self, if_true]
    exact List.mem_append_right _ List.mem_cons_self

theorem Orderly.accept {accepted : Accepted} (held : accepted.id ∈ world.held accepted.owner accepted.paneId) :
    Orderly { world with accepted := world.accepted ++ [accepted] } := by
  refine { orderly with holds := fun name id change at_ => ?_, accepted := fun other among => ?_ }
  · have holding := orderly.holds name id change at_
    exact { holding with }
  · rcases List.mem_append.mp among with before | last
    · exact orderly.accepted other before
    · rw [List.mem_singleton.mp last]
      exact held

theorem Orderly.holdProceed {name id : Nat} (holds : world.holds name = some (id, change))
    (answer : Answer) (now : List Char) : Orderly (world.holdProceed name id change answer now) := by
  unfold World.holdProceed
  cases went : world.outcome change answer now with
  | goesOn next =>
    obtain ⟨idle, apt, owner, target, edit⟩ := proceeds_goesOn went
    rw [call_idle idle]
    refine orderly.wait holds fun id_ change_ at_ => ?_
    cases at_
    exact ⟨rfl, (orderly.holds name id change holds).idle apt owner target edit⟩
  | done queue =>
    obtain ⟨orderly_, held⟩ := orderly.put holds (proceeds_done went).1
    have same : (world.call change answer).accepted = world.accepted := by
      unfold World.call
      dsimp only
      split
      · split <;> rfl
      · rfl
    rw [← same]
    exact orderly_.accept held
  | throws =>
    cases writes : change.writes (world.records change.owner change.target.paneId) answer with
    | false =>
      rw [call_idle writes]
      exact orderly.wait holds fun id_ change_ at_ => by cases at_
    | true => exact (orderly.put holds writes).1

theorem Orderly.retick {inbox : List Notice} {tick : Option Tick} (kept : world.inbox ⊆ inbox)
    (told : ∀ owner paneId id, world.Noticing owner paneId id →
      { world with inbox, tick }.Told owner id ∨ { world with inbox, tick }.Noticing owner paneId id)
    (ok : ∀ tick_, tick = some tick_ → TickOk world.records world.failures world.arrivals tick_) :
    Orderly { world with inbox, tick } := by
  refine { orderly with
      lines := fun owner paneId => (orderly.lines owner paneId).settle (fun id settled => ?_) fun _ => Nat.le_refl _,
      holds := fun name id change at_ => ?_, tick := ok }
  · rcases settled with arrived | ⟨failed, ⟨notice, among, is⟩ | noticing⟩
    · exact .inl arrived
    · exact .inr ⟨failed, .inl ⟨notice, kept among, is⟩⟩
    · exact .inr ⟨failed, told owner paneId id noticing⟩
  · have holding := orderly.holds name id change at_
    exact { holding with }

end

theorem not_noticing {tick : Tick} (running : world.tick = some tick) (stage : ∀ owner paneId notice id,
    tick.stage ≠ .noticing owner paneId notice id) (owner paneId : String) (id : Nat) : ¬ world.Noticing owner paneId id := by
  rintro ⟨tick_, notice, running_, noticing⟩
  rw [running] at running_
  cases running_
  exact stage owner paneId notice id noticing

theorem tries_append (tries : List Try) (try_ : Try) (owner paneId : String) :
    ({ world with tries := tries ++ [try_] } : World).tried owner paneId =
      ({ world with tries } : World).tried owner paneId ++
        if try_.owner = owner ∧ try_.paneId = paneId then [try_.id] else [] := by
  simp only [World.tried, List.filter_append, List.map_append]
  split
  · next here => simp [here]
  · next there =>
    rw [not_and_or] at there
    rcases there with owner_ | pane <;> simp [*]

theorem Orderly.deliver (orderly : Orderly world) {tick : Tick} (running : world.tick = some tick) {owner : String}
    {queue : HeldQueue} {item : HeldText} (stage : tick.stage = .delivering owner queue item) (delivery : Delivery) :
    Orderly (world.deliver tick owner queue item delivery) := by
  have ok := orderly.tick tick running
  obtain ⟨head, counted, apart⟩ : StageOk world.records world.failures world.arrivals tick.rest (.delivering owner queue item) :=
    stage ▸ ok.stage
  have quiet := not_noticing running (by rw [stage]; exact nofun)
  set try_ : Try := { owner, paneId := queue.paneId, id := item.id, delivery } with tryIs
  have fails (owner_ paneId : String) (id : Nat) : world.failures owner_ paneId id ≤
      (world.deliver tick owner queue item delivery).failures owner_ paneId id := by
    simp only [World.failures, World.deliver, List.filter_append, List.length_append]
    omega
  have arrives (owner_ paneId : String) : world.arrivals owner_ paneId ⊆
      (world.deliver tick owner queue item delivery).arrivals owner_ paneId := by
    simp only [World.arrivals, World.deliver, List.filter_append, List.map_append]
    exact List.subset_append_left _ _
  refine { orderly with
      lines := fun owner_ paneId => ?_, holds := fun name id change at_ => ?_, tick := fun tick_ running_ => ?_ }
  · have line : Line (world.held owner_ paneId) ((world.deliver tick owner queue item delivery).tried owner_ paneId)
        (world.records owner_ paneId) (world.failures owner_ paneId) (world.Settled owner_ paneId) paneId := by
      have appended : (world.deliver tick owner queue item delivery).tried owner_ paneId = world.tried owner_ paneId ++
          if owner = owner_ ∧ queue.paneId = paneId then [item.id] else [] := tries_append world.tries try_ owner_ paneId
      rw [appended]
      split
      · next here =>
        obtain ⟨rfl, rfl⟩ := here
        exact (orderly.lines owner queue.paneId).tries head
      · rw [List.append_nil]
        exact orderly.lines owner_ paneId
    refine line.settle (fun id settled => ?_) (fails owner_ paneId)
    rcases settled with arrived | ⟨failed, told | noticing⟩
    · exact .inl (arrives owner_ paneId arrived)
    · exact .inr ⟨Nat.le_trans failed (fails owner_ paneId id), .inl told⟩
    · exact (quiet owner_ paneId id noticing).elim
  · have holding := orderly.holds name id change at_
    exact { holding with }
  · cases running_
    refine ⟨ok.waiting.mono (fun _ _ => ⟨[], (List.append_nil _).symm⟩) fails, {
      owns := rfl
      pane := rfl
      edit := rfl
      apt := fun _ _ writing => by cases writing
      head := head
      sent := fun sent => ?_
      failed := fun failed => ?_ }, apart⟩
    · cases delivery with
      | sent =>
        simp only [World.arrivals, World.deliver, List.filter_append, List.map_append]
        exact List.mem_append_right _ (by simp [Delivery.arrived])
      | failed arrived error => cases sent
    · cases delivery with
      | sent => exact (failed rfl).elim
      | failed arrived error =>
        have more : (world.deliver tick owner queue item (.failed arrived error)).failures owner queue.paneId item.id =
            world.failures owner queue.paneId item.id + 1 := by
          simp [World.failures, World.deliver, List.filter_append]
        rw [more]
        exact Nat.succ_le_succ counted

theorem Orderly.record (orderly : Orderly world) {owner : String} {queue : HeldQueue} {item : HeldText}
    {error : Option (List Char)} (quiet : ∀ owner paneId id, ¬ world.Noticing owner paneId id)
    (changing : Changing world.records world.failures world.arrivals owner queue item error change)
    (writes : change.writes (world.records change.owner change.target.paneId) answer = true) {tick : Option Tick}
    (through : change.edit = .remove item.id → (world.atTick tick).Settled owner queue.paneId item.id)
    (ok : ∀ tick_, tick = some tick_ → TickOk (world.call change answer).records world.failures world.arrivals tick_) :
    Orderly ((world.call change answer).atTick tick) := by
  obtain ⟨rfl, pane, edit, apt, head, -, failed⟩ := changing
  rw [← pane] at apt head through failed
  obtain ⟨now, stored⟩ := stored_new apt writes
  have outrun (owner paneId : String) (other : Change) (apt_ : other.Apt (world.records owner paneId)) :
      other.Apt ((world.call change answer).records owner paneId) := by
    rw [call_records]
    dsimp only
    split
    · next at_ =>
      rw [at_.1, at_.2] at apt_
      exact apt_.outrun apt
    · exact apt_
  have other : ∀ id text priority, change.edit ≠ .hold id text priority := by
    rw [edit]
    unfold afterTry
    split <;> exact nofun
  have paneOf (found : ControlRecord)
      (at_ : change.stored (world.records change.owner change.target.paneId) answer = some found) :
      found.value.paneId = change.target.paneId := by
    rw [stored] at at_
    cases at_
    rfl
  have settles (owner paneId : String) (id : Nat) (settled : world.Settled owner paneId id) :
      (world.atTick tick).Settled owner paneId id := by
    rcases settled with arrived | ⟨often, told | noticing⟩
    · exact .inl arrived
    · exact .inr ⟨often, .inl told⟩
    · exact (quiet owner paneId id noticing).elim
  rw [call_other other] at outrun ok ⊢
  refine { orderly with lines := fun owner paneId => ?_, holds := fun name id change_ at_ => ?_, tick := ok }
  · have line := (orderly.lines owner paneId).settle (settles owner paneId) fun _ => Nat.le_refl _
    simp only [World.store, World.atTick]
    by_cases here : owner = change.owner ∧ paneId = change.target.paneId
    · obtain ⟨rfl, rfl⟩ := here
      simp only [and_self, if_true]
      unfold afterTry at edit
      split at edit
      · refine line.remove head (through edit) ?_ paneOf
        rw [stored]
        simp only [itemsOf, Option.map_some, Option.getD_some, Change.next, edit, Edit.apply]
      · next counts =>
        refine line.count (failed fun none_ => counts (by rw [none_]; rfl)) ?_ paneOf
        rw [stored]
        simp only [itemsOf, Option.map_some, Option.getD_some, Change.next, edit, Edit.apply]
    · simp only [if_neg here]
      exact line
  · have holding := orderly.holds name id change_ at_
    exact { holding with apt := outrun change_.owner change_.target.paneId change_ holding.apt }

end

/-- Nothing fails between the write that gives a text up and its notice: that write's reply comes, the notice reaches the inbox,
and the process does not die between the two. -/
def Allowed (world : World) : HeldEvent → Bool
  | .changes .lost _ => world.tick.all fun tick =>
    match tick.stage with
    | .changing owner queue item (some _) change =>
      decide (item.attempts + 1 < HELD_MAX_ATTEMPTS) || !change.fits (world.records owner queue.paneId)
    | _ => true
  | .notices .fails => world.tick.all fun tick =>
    match tick.stage with
    | .noticing .. => false
    | _ => true
  | .dies => world.tick.all fun tick =>
    match tick.stage with
    | .noticing .. => false
    | _ => true
  | _ => true

section

variable {world : World} {tick : Tick}

section
variable (orderly : Orderly world)

include orderly

theorem Orderly.quit (quiet : ∀ owner paneId id, ¬ world.Noticing owner paneId id) : Orderly (world.atTick none) :=
  orderly.retick (fun _ among => among) (fun owner paneId id noticing => (quiet owner paneId id noticing).elim) fun _ at_ => by
    cases at_

theorem Orderly.changes (running : world.tick = some tick) {owner : String} {queue : HeldQueue}
    {item : HeldText} {error : Option (List Char)} {change : Change}
    (stage : tick.stage = .changing owner queue item error change) (answer : Answer) (now : List Char)
    (allowed : Allowed world (.changes answer now) = true) : Orderly (world.tickProceed tick (.changes answer now)) := by
  have ok := orderly.tick tick running
  obtain ⟨changing, apart⟩ : StageOk world.records world.failures world.arrivals tick.rest
      (.changing owner queue item error change) := stage ▸ ok.stage
  have quiet := not_noticing running (by rw [stage]; exact nofun)
  have key : change.owner = owner ∧ change.target.paneId = queue.paneId := ⟨changing.owns, changing.pane⟩
  -- the other queues of the tick are as they were
  have waiting : Waiting (world.call change answer).records world.failures tick.rest := by
    refine ok.waiting.mono (fun entry among => ⟨[], ?_⟩) fun _ _ _ => Nat.le_refl _
    have other : ¬ (entry.1 = change.owner ∧ entry.2.paneId = change.target.paneId) := by
      rintro ⟨same, pane⟩
      refine apart (List.mem_map.mpr ⟨entry, among, ?_⟩)
      rw [keyOf, same, pane, key.1, key.2]
    rw [call_records]
    simp only [if_neg other, List.append_nil]
  unfold World.tickProceed
  rw [stage]
  dsimp only
  cases went : world.outcome change answer now with
  | goesOn next =>
    obtain ⟨idle, apt, owns, target, edit⟩ := proceeds_goesOn went
    rw [call_idle idle]
    refine orderly.retick (fun _ among => among) (fun owner paneId id noticing => (quiet owner paneId id noticing).elim) fun _ at_ => ?_
    cases at_
    refine ⟨ok.waiting, { changing with
      owns := owns.trans changing.owns
      pane := by rw [target, changing.pane]
      edit := edit.trans changing.edit
      apt := ?_ }, apart⟩
    rw [key.1, key.2] at apt
    exact apt
  | done queue_ =>
    obtain ⟨writes, -⟩ := proceeds_done went
    have after (told : Tick) : ∀ tick_, told.next tick.rest = some tick_ →
        TickOk (world.call change answer).records world.failures world.arrivals tick_ := fun _ next => next_ok told waiting next
    cases error with
    | none => exact orderly.record quiet changing writes (fun _ => .inl (changing.sent rfl)) (after _)
    | some text =>
      unfold World.changed
      dsimp only
      split
      · next often =>
        refine orderly.record quiet changing writes (fun _ => .inr ⟨?_, .inr ⟨_, _, rfl, rfl⟩⟩) fun _ at_ => ?_
        · exact Nat.le_trans often (changing.failed nofun)
        · cases at_
          exact ⟨waiting, rfl, rfl⟩
      · next seldom =>
        refine orderly.record quiet changing writes (fun removes => ?_) (after _)
        rw [changing.edit] at removes
        simp [afterTry, seldom] at removes
  | throws =>
    cases writes : change.writes (world.records change.owner change.target.paneId) answer with
    | false =>
      rw [call_idle writes]
      exact orderly.quit quiet
    | true =>
      refine orderly.record quiet changing writes (fun removes => ?_) fun _ at_ => by cases at_
      cases error with
      | none => exact .inl (changing.sent rfl)
      | some text =>
        have fits := (Bool.and_eq_true _ _ ▸ writes : _ ∧ _).2
        rw [key.1, key.2] at fits
        have lost := proceeds_throws went writes
        subst lost
        have seldom : item.attempts + 1 < HELD_MAX_ATTEMPTS := by
          simpa [Allowed, running, stage, fits] using allowed
        rw [changing.edit] at removes
        simp [afterTry, Nat.not_le.mpr seldom] at removes

theorem Orderly.queues (order : List (String × String)) :
    Waiting world.records world.failures (world.queues order) := by
  have listed (key : String × String) (entry : String × HeldQueue)
      (at_ : (((world.records key.1 key.2).filter fun record => record.value.status = .held && !record.value.items.isEmpty).map
        fun record => (key.1, record.value)) = some entry) :
      keyOf entry = key ∧ Listed world.records world.failures entry := by
    obtain ⟨record, found, rfl⟩ := Option.map_eq_some_iff.mp at_
    have present := (Option.filter_eq_some_iff.mp found).1
    have line := orderly.lines key.1 key.2
    have pane := line.pane record present
    refine ⟨Prod.ext rfl pane, ⟨[], ?_⟩, fun item among => ?_⟩
    · simp only [pane, present, idsOf, itemsOf, Option.map_some, Option.getD_some, List.append_nil]
    · simp only [pane]
      exact line.counted item (by simpa only [present, itemsOf, Option.map_some, Option.getD_some] using among)
  refine ⟨fun entry among => ?_, ?_⟩
  · obtain ⟨key, -, at_⟩ := List.mem_filterMap.mp among
    exact (listed key entry at_).2
  · unfold World.queues
    rw [List.map_filterMap]
    refine List.Nodup.filterMap (fun first second key one two => ?_) (List.nodup_dedup order)
    obtain ⟨entry, at_, same⟩ := Option.map_eq_some_iff.mp one
    obtain ⟨other, there, same_⟩ := Option.map_eq_some_iff.mp two
    rw [← (listed first entry at_).1, ← (listed second other there).1, same, same_]

theorem Orderly.tickProceed (running : world.tick = some tick) {event : HeldEvent}
    (allowed : Allowed world event = true) : Orderly (world.tickProceed tick event) := by
  have ok := orderly.tick tick running
  cases event with
  | lists order fails =>
    unfold World.tickProceed
    dsimp only
    split
    · exact orderly
    · next listing =>
      rw [not_ne_iff] at listing
      have quiet := not_noticing running (by rw [listing]; exact nofun)
      split
      · exact orderly.quit quiet
      · refine orderly.retick (fun _ among => among) (fun owner paneId id noticing => (quiet owner paneId id noticing).elim) fun _ at_ => ?_
        cases at_
        exact ⟨ok.waiting, orderly.queues order⟩
  | levels level fails =>
    unfold World.tickProceed
    cases stage : tick.stage with
    | levelling queues =>
      have quiet := not_noticing running (by rw [stage]; exact nofun)
      have waiting : Waiting world.records world.failures queues :=
        (stage ▸ ok.stage : StageOk world.records world.failures world.arrivals tick.rest (.levelling queues))
      dsimp only
      split
      · exact orderly.quit quiet
      · exact orderly.retick (fun _ among => among) (fun owner paneId id noticing => (quiet owner paneId id noticing).elim)
          fun _ next => next_ok _ waiting next
    | _ => exact orderly
  | delivers delivery =>
    unfold World.tickProceed
    cases stage : tick.stage with
    | delivering owner queue item => exact orderly.deliver running stage delivery
    | _ => exact orderly
  | changes answer now =>
    cases stage : tick.stage with
    | changing owner queue item error change => exact orderly.changes running stage answer now allowed
    | _ =>
      unfold World.tickProceed
      rw [stage]
      exact orderly
  | notices answer =>
    unfold World.tickProceed
    cases stage : tick.stage with
    | noticing owner paneId notice id =>
      obtain ⟨owns, key⟩ : notice.owner = owner ∧ notice.key = .heldFailed id :=
        (stage ▸ ok.stage : StageOk world.records world.failures world.arrivals tick.rest (.noticing owner paneId notice id))
      have reaches : answer ≠ .fails := by
        rintro rfl
        simp [Allowed, running, stage] at allowed
      have told (owner_ paneId_ : String) (id_ : Nat) (noticing : world.Noticing owner_ paneId_ id_) :
          ∃ other ∈ world.inbox ++ [notice], other.owner = owner_ ∧ other.key = .heldFailed id_ := by
        obtain ⟨tick_, notice_, running_, stage_⟩ := noticing
        rw [running] at running_
        cases running_
        rw [stage] at stage_
        cases stage_
        exact ⟨notice, List.mem_append_right _ List.mem_cons_self, owns, key⟩
      dsimp only
      split
      · exact orderly.retick (List.subset_append_left _ _) (fun owner_ paneId_ id_ noticing => .inl (told owner_ paneId_ id_ noticing))
          fun _ next => next_ok tick ok.waiting next
      · exact orderly.retick (List.subset_append_left _ _) (fun owner_ paneId_ id_ noticing => .inl (told owner_ paneId_ id_ noticing))
          fun _ at_ => by cases at_
    | telling delivered =>
      have quiet := not_noticing running (by rw [stage]; exact nofun)
      have kept (notice : Notice) : world.inbox ⊆ if answer = .fails then world.inbox else world.inbox ++ [notice] := by
        split
        · exact fun _ among => among
        · exact List.subset_append_left _ _
      cases delivered with
      | nil => exact orderly.quit quiet
      | cons entry rest =>
        dsimp only
        split
        · refine orderly.retick (kept _) (fun owner paneId id noticing => (quiet owner paneId id noticing).elim) fun _ at_ => ?_
          cases at_
          exact ⟨ok.waiting, trivial⟩
        · exact orderly.retick (kept _) (fun owner paneId id noticing => (quiet owner paneId id noticing).elim)
            fun _ at_ => by cases at_
    | _ => exact orderly
  | holds name owner target text priority => exact orderly
  | holdProceeds name answer now => exact orderly
  | tickStarts => exact orderly
  | dies => exact orderly

theorem Orderly.starts (name : Nat) (owner : String) (target : HeldTarget) (text : List Char)
    (priority : HeldPriority) : Orderly { world.wait name (some (world.drawn,
      { owner, target, edit := .hold world.drawn text priority })) with drawn := world.drawn + 1 } := by
  have cases_ (other id : Nat) (change : Change)
      (at_ : (world.wait name (some (world.drawn, { owner, target, edit := .hold world.drawn text priority }))).holds other =
        some (id, change)) :
      (other = name ∧ id = world.drawn ∧ change = { owner, target, edit := .hold world.drawn text priority }) ∨
        world.holds other = some (id, change) := by
    simp only [World.wait, Function.update_apply] at at_
    split at at_
    · next same =>
      cases at_
      exact .inl ⟨same, rfl, rfl⟩
    · exact .inr at_
  refine { orderly with
      drawn := fun owner_ paneId id among => Nat.lt_succ_of_lt (orderly.drawn owner_ paneId id among),
      holds := fun other id change at_ => ?_, apart := fun first second id change₁ change₂ one two => ?_ }
  · rcases cases_ other id change at_ with ⟨rfl, rfl, rfl⟩ | before
    · exact ⟨⟨text, priority, rfl⟩, fun _ _ writing => (by cases writing), Nat.lt_succ_self _,
        fun owner_ paneId among => Nat.lt_irrefl _ (orderly.drawn owner_ paneId _ among)⟩
    · have holding := orderly.holds other id change before
      exact { holding with drawn := Nat.lt_succ_of_lt holding.drawn }
  · rcases cases_ first id change₁ one with ⟨rfl, fresh, -⟩ | first_ <;>
      rcases cases_ second id change₂ two with ⟨same, fresh_, -⟩ | second_
    · exact same.symm
    · exact absurd (orderly.holds second id change₂ second_).drawn (by omega)
    · exact absurd (orderly.holds first id change₁ first_).drawn (by omega)
    · exact orderly.apart first second id change₁ change₂ first_ second_

theorem Orderly.step {event : HeldEvent} (allowed : Allowed world event = true) : Orderly (world.step event) := by
  have ticks (tick : Tick) (running : world.tick = some tick) : Orderly (world.tickProceed tick event) :=
    orderly.tickProceed running allowed
  cases event with
  | holds name owner target text priority =>
    unfold World.step
    dsimp only
    split
    · exact orderly
    · exact orderly.starts name owner target text priority
  | holdProceeds name answer now =>
    unfold World.step
    dsimp only
    split
    · exact orderly
    · next id change holds => exact orderly.holdProceed holds answer now
  | tickStarts =>
    unfold World.step
    dsimp only
    split
    · exact orderly
    · next idle =>
      have none_ : world.tick = none := by simpa using idle
      refine orderly.retick (fun _ among => among) (fun owner paneId id noticing => ?_) fun _ at_ => ?_
      · obtain ⟨tick, notice, running, -⟩ := noticing
        rw [none_] at running
        cases running
      · cases at_
        exact ⟨⟨nofun, List.nodup_nil⟩, trivial⟩
  | dies =>
    have quiet (owner paneId : String) (id : Nat) : ¬ world.Noticing owner paneId id := by
      rintro ⟨tick, notice, running, stage⟩
      simp [Allowed, running, stage] at allowed
    have quit := orderly.quit quiet
    exact { quit with holds := fun name id change at_ => (by cases at_), apart := fun _ _ _ _ _ at_ => (by cases at_) }
  | _ =>
    unfold World.step
    dsimp only
    split
    · exact orderly
    · next tick running => exact ticks tick running

end

end

/-- No text that was held is lost in silence, and the texts of a pane reach it in the order in which they were put in. -/
structure Kept (world : World) : Prop where
  put : ∀ accepted ∈ world.accepted, accepted.id ∈ world.held accepted.owner accepted.paneId
  somewhere : world.tick = none → ∀ accepted ∈ world.accepted,
    accepted.id ∈ idsOf (world.records accepted.owner accepted.paneId) ∨
      accepted.id ∈ world.arrivals accepted.owner accepted.paneId ∨
      (HELD_MAX_ATTEMPTS ≤ world.failures accepted.owner accepted.paneId accepted.id ∧ world.Told accepted.owner accepted.id)
  distinct : ∀ owner paneId, (world.held owner paneId).Nodup
  ordered : ∀ owner paneId, (world.arrivals owner paneId).Pairwise (Earlier (world.held owner paneId))

theorem Orderly.kept {world : World} (orderly : Orderly world) : Kept world := by
  refine ⟨orderly.accepted, fun idle accepted among => ?_, fun owner paneId => (orderly.lines owner paneId).distinct,
    fun owner paneId => (orderly.lines owner paneId).ordered.sublist (arrivals_sublist world owner paneId)⟩
  obtain ⟨past, whole, -, done⟩ := (orderly.lines accepted.owner accepted.paneId).past
  have put := orderly.accepted accepted among
  rw [whole] at put
  rcases List.mem_append.mp put with gone | waits
  · rcases done accepted.id gone with arrived | ⟨often, told | ⟨tick, notice, running, -⟩⟩
    · exact .inr (.inl arrived)
    · exact .inr (.inr ⟨often, told⟩)
    · rw [idle] at running
      cases running
  · exact .inl waits

/-- Where nothing fails between giving a text up and its notice, held texts are kept. -/
theorem texts_kept {world : World}
    (reached : Reached (fun world => world = {}) (fun world event => Allowed world event = true) World.step world) : Kept world := by
  refine Orderly.kept (reached.invariant ?_ fun _ _ orderly allowed => orderly.step allowed)
  rintro _ rfl
  exact ⟨fun owner paneId => ⟨List.nodup_nil, fun _ none_ => (by cases none_), List.forall_mem_nil _,
    ⟨[], rfl, List.forall_mem_nil _, List.forall_mem_nil _⟩, .nil⟩, fun _ _ => List.forall_mem_nil _,
    fun _ _ _ none_ => (by cases none_), fun _ _ _ _ _ none_ => (by cases none_), List.forall_mem_nil _,
    fun _ none_ => (by cases none_)⟩

namespace Sample

def andy : HeldTarget := {
  roomId := "room:dino0001"
  roomName := "Dino".toList
  paneId := "pane:andy0001"
  paneName := "Andy".toList }

def hold : List HeldEvent :=
  [.holds 1 "user:operator" andy "Never arrives.".toList .normal, .holdProceeds 1 .answers "2026-10-17T10:31:00.000Z".toList,
    .holdProceeds 1 .answers "2026-10-17T10:31:00.000Z".toList]

/-- A tick whose delivery fails, up to the change of the queue. -/
def fails : List HeldEvent :=
  [.tickStarts, .lists [("user:operator", "pane:andy0001")] false, .levels .calm false,
    .delivers (.failed false "The pane is closed.".toList), .changes .answers [], .changes .answers []]

def givesUp (answer : Answer) : List HeldEvent := hold ++ fails ++ fails ++ fails ++ [.notices answer]

end Sample

/-- A text is tried three times in vain, and Nous is told. -/
theorem texts_kept_told : Kept ((Sample.givesUp .answers).foldl World.step {}) ∧
      ((Sample.givesUp .answers).foldl World.step {}).inbox.map (·.key) = [.heldFailed 0] :=
  ⟨texts_kept (Reached.run (.start rfl) (by decide +kernel)), by decide +kernel⟩

/-- The notice of the text given up fails: the text is nowhere. -/
theorem given_up_in_silence : ¬ ∀ events : List HeldEvent, Kept (events.foldl World.step {}) := by
  intro always
  have kept := always (Sample.givesUp .fails)
  have where_ := kept.somewhere (by decide +kernel)
    { owner := "user:operator", paneId := "pane:andy0001", id := 0, waiting := 1 } (by decide +kernel)
  rcases where_ with waits | arrived | ⟨-, notice, among, -⟩
  · exact absurd waits (by decide +kernel)
  · exact absurd arrived (by decide +kernel)
  · cases among

end SpaceApp.Nous.HeldDispatch
