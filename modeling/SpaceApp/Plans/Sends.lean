import SpaceApp.Plans.Resuming

/-! Each event keeps what holds of the fleet: a START goes out under the lease of its record. -/

set_option autoImplicit false

namespace SpaceApp.Plans

open SpaceApp.Foundation Dialogue

section

variable {options : ControllerOptions} {stored : Nat → ManagedPlanExecution} {alive : Prop} {world next : World}
  {advance after other : Advance} {known told : Known} {key otherKey : Nat} {op : Op}
  {waits : Op.Answer op → Program Unit} {since rest : Local} {thread : Thread} {program : Program Unit} {limit : ℤ}

theorem Leased.live (leased : Leased options world advance known) {expiry : ℚ} (knows : known.expiry = some expiry)
    (unreleased : advance.released = false) (unexpired : world.clock < expiry) : Live world.record advance := by
  obtain ⟨-, expired | ⟨held, recorded, epoch, -⟩⟩ := leased expiry knows unreleased
  · exact absurd unexpired (not_lt.mpr expired)
  · exact ⟨held, recorded, epoch⟩

theorem StepKept.unreleased (kept : StepKept options stored alive world advance known)
    (going : World.isOver advance.main = false) (knows : known.core.isSome) : advance.released = false := by
  by_contra released
  rcases kept.finished (by simpa using released) with ended | silent
  · rw [going] at ended
    cases ended
  · rw [silent] at knows
    cases knows

section
variable (kept : StepKept options stored (Live world.record advance) world advance known)

include kept

theorem StepKept.started (live : Live world.record advance) (unreleased : advance.released = false) {id : String}
    (starts : ∃ before, known.core = some before ∧ (Live world.record advance → before.start = some id)) :
    startId world.record = some id := by
  obtain ⟨before, knows, begins⟩ := starts
  obtain ⟨core, knowsCore, same⟩ := kept.recorded unreleased
  rw [knows] at knowsCore
  cases knowsCore
  exact (congrArg Core.start (same live)).trans (begins live)

theorem StepKept.hands (ready : advance.main = .ready program) (now : since.now = world.clock)
    (owes : issues options stored (Live world.record advance) known since rest op told) {id : String}
    (starts : startOf op = some id) :
    advance.released = false ∧ Live world.record advance ∧ startId world.record = some id ∧
      ∀ sending ∈ world.sendings, sending.handed = true → sending.commandId ≠ id := by
  obtain ⟨unsent, recorded, expiry, knows, unexpired⟩ := issues_start owes starts
  have some : known.core.isSome := by
    obtain ⟨before, knowsCore, -⟩ := recorded
    exact Option.isSome_of_eq_some knowsCore
  have unreleased := kept.unreleased (by rw [ready]; rfl) some
  have live : Live world.record advance := by
    apply kept.thread.leased.live knows unreleased
    rw [← now]
    exact unexpired
  exact ⟨unreleased, live, kept.started live unreleased recorded, kept.unsent id unsent unreleased live⟩

theorem StepKept.letsThrough {call : Op}
    (calls : CallbackKept options stored (Live world.record advance) world advance known (call, .ready program) told)
    (now : since.now = world.clock) {id : String} {final : Known}
    (settled : Settled options stored (Live world.record advance) told since rest
      (callbackPost options stored (Live world.record advance) call) advance.lease (.ended (.ok ())) final)
    (called : startOf call = some id) (starts : advance.starting = some id) : startId world.record = some id := by
  have recorded := kept.starting id starts
  have going : World.isOver advance.main = false := by
    unfold Advance.starting at starts
    split at starts
    · next waiting => rw [waiting]; rfl
    · cases starts
  have unreleased := kept.unreleased going (by
    obtain ⟨before, knows, -⟩ := recorded
    exact Option.isSome_of_eq_some knows)
  cases settled with
  | ends holds =>
    obtain ⟨expiry, knows, unexpired⟩ := holds.2 (Option.isSome_of_eq_some called) rfl
    have live : Live world.record advance := by
      apply calls.thread.leased.live knows unreleased
      rw [← now]
      exact unexpired
    exact kept.started live unreleased recorded

end

theorem beside_quiet (clock : next.clock = world.clock) (nextId : world.nextId ≤ next.nextId)
    (recorded : next.record = world.record) (lease : after.lease = advance.lease)
    (released : after.released = false → advance.released = false) : Beside options world next advance after where
  clock := clock.ge
  nextId
  lease
  released
  held := by
    intro _ held leased _ expiry unexpired _
    rw [recorded]
    exact .inr ⟨held, leased, rfl, unexpired⟩

theorem AdvanceKept.epoch_same (mine : AdvanceKept options stored world advance key) (recorded : next.record = world.record) :
    ∃ held, next.record.lease = some held ∧ advance.lease.epoch ≤ held.epoch ∧
      (held.epoch = advance.lease.epoch → held.owner = advance.worker) := by
  rw [recorded]
  exact mine.epoch

theorem startOf_sent {index : Option Nat} {sending : Sending} (member : sending ∈ world.sent advance index thread) :
    world.sent advance index thread = [sending] ∧ sending.attempts = world.record.attempts ∧
      ((index = none ∧ sending.handed = true ∧ ∃ op waits, thread = .waiting op waits ∧
          startOf op = some sending.commandId) ∨
        (sending.handed = false ∧ thread = .ended (.ok ()) ∧ advance.starting = some sending.commandId ∧
          ∃ place callback, index = some place ∧ advance.callbacks[place]? = some callback ∧
            startOf callback.1 = some sending.commandId)) := by
  unfold World.sent at member ⊢
  cases index with
  | none =>
    cases thread with
    | waiting op waits =>
      dsimp only at member ⊢
      cases starts : startOf op with
      | none =>
        rw [starts] at member
        cases member
      | some id =>
        rw [starts] at member
        obtain rfl := List.mem_singleton.mp member
        exact ⟨rfl, rfl, .inl ⟨rfl, rfl, op, waits, rfl, starts⟩⟩
    | ready program => cases member
    | ended result => cases member
  | some place =>
    cases thread with
    | waiting op waits => cases member
    | ready program => cases member
    | ended result =>
      cases result with
      | error failure => cases member
      | ok =>
        cases found : advance.callbacks[place]? with
        | none =>
          simp only [found, Option.bind_none] at member
          cases member
        | some callback =>
          simp only [found, Option.bind_some] at member ⊢
          cases starts : startOf callback.1 with
          | none =>
            rw [starts] at member
            cases member
          | some id =>
            rw [starts] at member
            dsimp only at member ⊢
            split at member
            · next open_ =>
              obtain rfl := List.mem_singleton.mp member
              rw [if_pos open_]
              exact ⟨rfl, rfl, .inr ⟨rfl, trivial, open_, place, callback, rfl, found, starts⟩⟩
            · cases member

/-- A START that goes out is the record's own: it is new where it is handed over, and was handed over before it settles. -/
theorem WorldKept.sends (kept : WorldKept options stored world) {index : Option Nat} (more : world.nextId ≤ next.nextId)
    (recorded : next.record = world.record) (sendings : next.sendings = world.sent advance index thread ++ world.sendings)
    (each : ∀ sending ∈ world.sent advance index thread, startId world.record = some sending.commandId ∧
      (sending.handed = true → ∀ other ∈ world.sendings, other.handed = true → other.commandId ≠ sending.commandId) ∧
      (sending.handed = false → ∃ other ∈ world.sendings, other.handed = true ∧ other.commandId = sending.commandId)) :
    SendingsKept options next := by
  cases sent : world.sent advance index thread with
  | nil =>
    apply kept.sendings.kept ?_ more
    · rw [recorded]
      exact Kept.refl _
    · rw [sendings, sent]
      rfl
  | cons sending rest =>
    have member : sending ∈ world.sent advance index thread := by
      rw [sent]
      exact List.mem_cons_self ..
    obtain ⟨single, attempts, -⟩ := startOf_sent member
    obtain ⟨started, fresh, earlier⟩ := each sending member
    rw [single, List.singleton_append] at sendings
    obtain ⟨own, listed, -, mine⟩ := kept.record.2.attempts.attempted _ started
    constructor
    · intro other inside handed
      rw [sendings] at inside
      rcases List.mem_cons.mp inside with rfl | old
      · obtain ⟨-, index, below, drawn⟩ := kept.issued own.key (mem_keys listed)
        exact ⟨index, below.trans_le more, drawn.trans mine⟩
      · obtain ⟨index, below, drawn⟩ := kept.sendings.drawn other old handed
        exact ⟨index, below.trans_le more, drawn⟩
    · rw [sendings]
      cases handed : sending.handed with
      | false => simpa [handedIds, handed] using kept.sendings.once
      | true =>
        have apart : sending.commandId ∉ handedIds world.sendings := by
          intro inside
          obtain ⟨other, found, same⟩ := List.mem_map.mp inside
          obtain ⟨old, handedOther⟩ := List.mem_filter.mp found
          exact fresh handed other old handedOther same
        have same : handedIds (sending :: world.sendings) = sending.commandId :: handedIds world.sendings := by
          simp [handedIds, handed]
        rw [same]
        exact List.nodup_cons.mpr ⟨apart, kept.sendings.once⟩
    · intro other inside
      rw [sendings] at inside ⊢
      rcases List.mem_cons.mp inside with rfl | old
      · cases handed : other.handed with
        | true => exact ⟨other, List.mem_cons_self .., handed, rfl⟩
        | false =>
          obtain ⟨first, found, its, same⟩ := earlier handed
          exact ⟨first, List.mem_cons_of_mem _ found, its, same⟩
      · obtain ⟨first, found, its, same⟩ := kept.sendings.handed other old
        exact ⟨first, List.mem_cons_of_mem _ found, its, same⟩
    · intro other inside
      rw [sendings] at inside
      rcases List.mem_cons.mp inside with rfl | old
      · intro attempt found apart
        rw [attempts] at found
        exact kept.record.2.attempts.others started found apart
      · exact kept.sendings.settled other old
    · intro other inside
      rw [sendings] at inside
      rw [recorded]
      rcases List.mem_cons.mp inside with rfl | old
      · exact ⟨own.key, mem_keys listed, mine⟩
      · exact kept.sendings.recorded other old
    · rw [sendings]
      refine List.pairwise_cons.mpr ⟨?_, kept.sendings.ordered⟩
      intro other old
      rw [attempts]
      exact kept.sendings.recorded other old

section
variable (kept : WorldKept options stored world) (present : world.advances key = some advance) (now : since.now = world.clock)
  (began : since.nextId = world.nextId) (execution : since.execution = advance.execution)
  (ran : program.settle since = (thread, rest)) (clock : next.clock = world.clock) (recorded : next.record = world.record)
  (drawn : next.nextId = rest.nextId) (views : next.views = world.views)
  (put : next.advances = Function.update world.advances key (some after))

include kept present now began execution ran clock recorded drawn views put

theorem WorldKept.resumesMain (ready : advance.main = .ready program)
    (moved : after = advance.rests none thread rest (advance.released || World.isOver thread))
    (running : next.running =
      if World.isOver thread = true then Function.update world.running advance.worker none else world.running)
    (sendings : next.sendings = world.sent advance none thread ++ world.sendings) : WorldKept options stored next := by
  have mine := kept.advances key advance present
  have going : World.isOver advance.main = false := by rw [ready]; rfl
  have settles {alive : Prop} {known : Known} (step : StepKept options stored alive world advance known) :
      ∃ told, Settled options stored alive known since rest (mainPost options stored alive) advance.lease thread told := by
    apply ThreadKept.settles (ready ▸ step.thread) mine.genuine mine.issued execution began ran
  obtain ⟨known, step⟩ := mine.step _ fun live => live
  obtain ⟨told, settled⟩ := settles step
  have clear := settled.clear mainPost_clear
  have more : world.nextId ≤ next.nextId := by
    rw [drawn, ← began]
    exact clear.drawn
  have sends {sending : Sending} (member : sending ∈ world.sent advance none thread) :
      advance.released = false ∧ Live world.record advance ∧ startId world.record = some sending.commandId ∧
        ∀ other ∈ world.sendings, other.handed = true → other.commandId ≠ sending.commandId := by
    obtain ⟨-, -, ⟨-, -, op, waits, rfl, starts⟩ | ⟨-, -, -, place, callback, none, -⟩⟩ := startOf_sent member
    · cases settled with
      | asks owes keeps => exact step.hands ready now owes starts
    · cases none
  have sendingsKept : SendingsKept options next := by
    refine kept.sends more recorded sendings fun sending member => ?_
    obtain ⟨-, -, started, fresh⟩ := sends member
    refine ⟨started, fun _ => fresh, fun called => ?_⟩
    obtain ⟨-, -, ⟨-, handed, -⟩ | ⟨-, -, -, place, callback, none, -⟩⟩ := startOf_sent member
    · rw [handed] at called
      cases called
    · cases none
  apply kept.moved (by rw [recorded]; exact kept.record) (by rw [recorded]; exact kept.issued.mono more) views sendingsKept put
  · subst moved
    refine ⟨clear.genuine, ?_, mine.owner, mine.epoch_same recorded, ?_, ?_, ?_, ?_⟩
    · apply clear.issued.mono
      rw [began]
      exact more
    · intro still
      have still : World.isOver thread = false := still
      rw [running, still]
      exact mine.running going
    · exact fun ended => Bool.or_eq_true_iff.mpr (.inr ended)
    · intro id starts
      rw [sendings]
      cases thread with
      | waiting op waits =>
        have starts : startOf op = some id := starts
        exact ⟨_, List.mem_append_left _ (by simp only [World.sent, starts]; exact List.mem_singleton.mpr rfl), rfl, rfl⟩
      | ready program => cases starts
      | ended result => cases starts
    · intro alive living
      have living : alive → Live world.record advance := by
        rw [← recorded]
        exact living
      obtain ⟨known, step⟩ := mine.step alive living
      obtain ⟨told, settled⟩ := settles step
      refine ⟨told, step.resumed ready settled rfl ?_ recorded began drawn sendings kept.sendings.drawn⟩
      refine beside_quiet clock more recorded ?_ ?_
      · rfl
      exact fun unreleased => (Bool.or_eq_false_iff.mp unreleased).1
  · intro otherKey other apart otherPresent
    refine ⟨beside_quiet clock more recorded rfl id, ?_, ?_, ?_, _, sendings, ?_⟩
    · intro runs
      rw [running]
      split
      · rw [Function.update_of_ne]
        · exact runs
        · intro same
          rw [same, mine.running going] at runs
          exact apart (Option.some.inj runs).symm
      · exact runs
    · rw [recorded]
      exact LeaseFollows.of_same rfl
    · intro _ _
      rw [recorded]
    · intro otherUnreleased otherLive sending member
      obtain ⟨unreleased, live, -⟩ := sends member
      rw [recorded] at otherLive
      exact absurd (kept.sole present otherPresent unreleased otherUnreleased live otherLive) apart

theorem WorldKept.resumesCall {index : Nat} {call : Op}
    (ready : advance.callbacks[index]? = some (call, .ready program))
    (moved : after = advance.rests (some index) thread rest advance.released)
    (running : next.running = world.running)
    (sendings : next.sendings = world.sent advance (some index) thread ++ world.sendings) :
    WorldKept options stored next := by
  have mine := kept.advances key advance present
  obtain ⟨known, step⟩ := mine.step _ fun live => live
  obtain ⟨own, calls⟩ := step.callbacks _ (List.mem_of_getElem? ready)
  obtain ⟨told, settled⟩ := calls.thread.settles mine.genuine mine.issued execution began ran
  have clear := settled.clear callbackPost_clear
  have more : world.nextId ≤ next.nextId := by
    rw [drawn, ← began]
    exact clear.drawn
  have quiet : ∀ sending ∈ world.sent advance (some index) thread, sending.handed = false := by
    intro sending member
    obtain ⟨-, -, ⟨none, -⟩ | ⟨handed, -⟩⟩ := startOf_sent member
    · cases none
    · exact handed
  have sendingsKept : SendingsKept options next := by
    refine kept.sends more recorded sendings fun sending member => ?_
    obtain ⟨-, -, ⟨none, -⟩ | ⟨handed, ended, starting, place, callback, same, found, called⟩⟩ := startOf_sent member
    · cases none
    cases same
    rw [ready] at found
    cases found
    subst ended
    refine ⟨step.letsThrough calls now settled called starting, fun its => ?_, fun _ => mine.handed _ starting⟩
    rw [handed] at its
    cases its
  apply kept.moved (by rw [recorded]; exact kept.record) (by rw [recorded]; exact kept.issued.mono more) views sendingsKept put
  · subst moved
    refine ⟨clear.genuine, ?_, mine.owner, mine.epoch_same recorded, ?_, mine.ended, ?_, ?_⟩
    · apply clear.issued.mono
      rw [began]
      exact more
    · rw [running]
      exact mine.running
    · intro id starts
      obtain ⟨sending, member, handed⟩ := mine.handed id starts
      rw [sendings]
      exact ⟨sending, List.mem_append_right _ member, handed⟩
    · intro alive living
      have living : alive → Live world.record advance := by
        rw [← recorded]
        exact living
      obtain ⟨known, step⟩ := mine.step alive living
      refine ⟨known, step.callResumed ready ran rfl ?_ recorded execution began drawn ⟨_, sendings, quiet⟩ mine.genuine
        mine.issued⟩
      refine beside_quiet clock more recorded ?_ ?_
      · rfl
      · exact id
  · intro otherKey other apart otherPresent
    refine ⟨beside_quiet clock more recorded rfl id, ?_, ?_, ?_, _, sendings, fun _ _ => quiet⟩
    · rw [running]
      exact id
    · rw [recorded]
      exact LeaseFollows.of_same rfl
    · intro _ _
      rw [recorded]

end

theorem WorldKept.resumes (kept : WorldKept options stored world) {slot : Option Nat} {evidence : String → TurnEvidence} :
    WorldKept options stored (world.resumes key slot evidence) := by
  unfold World.resumes
  split
  · exact kept
  next advance present =>
  split
  next program ready =>
    rcases ran : program.settle (world.localOf advance evidence) with ⟨thread, rest⟩
    cases slot with
    | none =>
      have main : advance.main = .ready program := Option.some.inj ready
      exact kept.resumesMain present rfl rfl rfl ran rfl rfl rfl rfl rfl main rfl rfl rfl
    | some index =>
      simp only [Advance.thread, Option.map_eq_some_iff] at ready
      obtain ⟨callback, found, same⟩ := ready
      have call : advance.callbacks[index]? = some (callback.1, .ready program) := by
        rw [found, ← same]
      refine kept.resumesCall present rfl rfl rfl ran rfl rfl rfl rfl rfl call ?_ rfl rfl
      simp [Advance.setThread]
  · exact kept

end

end SpaceApp.Plans
