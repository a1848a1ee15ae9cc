import SpaceApp.Plans.Sends

/-! In every state the fleet reaches the record is sound, and each START was sent once, after
every earlier one was settled. -/

set_option autoImplicit false

namespace SpaceApp.Plans

open SpaceApp.Foundation Dialogue

section

variable {options : ControllerOptions} {stored : Nat → ManagedPlanExecution} {world next : World} {advance : Advance}
  {record : ManagedPlanExecution} {key worker : Nat} {op : Op}

theorem StepKept.called {alive : Prop} {known : Known} {program : Program Unit}
    (kept : StepKept options stored alive world advance known) (member : op ∈ advance.calls)
    (calls : beforeSend advance.lease op = some program) :
    ∃ told, CallbackKept options stored alive world advance known (op, .ready program) told := by
  have command {command : ManagedPlanCommand} (same : program = beforeCommand advance.lease command) :
      ∃ told, CallbackKept options stored alive world advance known (op, .ready program) told := by
    refine ⟨{ core := none, expiry := none, mode := .passing, unsent := none, count := 0 }, ?_, rfl, .inl rfl⟩
    refine ⟨Nat.zero_le _, (fun id held => by cases held), (fun expiry knows => by cases knows), trivial, ?_⟩
    intro later relied
    have relied : relies options stored alive _ (world.seen advance) later := relied
    rw [same]
    apply (beforeCommand_holds (clear_later relied)).mono
    rintro result told since later ⟨clear, ends⟩
    exact ⟨clear, fun _ => ends⟩
  cases op with
  | updateThreadSettings threadId selection settings => exact command (Option.some.inj calls).symm
  | startManagedTurn threadId selection prompt start settings => exact command (Option.some.inj calls).symm
  | interruptTurn threadId turnId intent =>
    obtain ⟨id, held⟩ := kept.calls _ member rfl
    refine ⟨{ core := none, expiry := none, mode := .held id, unsent := none, count := 0 }, ?_, rfl, .inr ⟨id, rfl, held⟩⟩
    refine ⟨Nat.zero_le _, ?_, (fun expiry knows => by cases knows), trivial, ?_⟩
    · intro other same
      cases same
      exact kept.thread.guarded id held
    · intro later relied
      have relied : relies options stored alive _ (world.seen advance) later := relied
      rw [← Option.some.inj calls]
      apply (beforeInterrupt_holds (clear_later relied) rfl).mono
      intro result told since later clear
      exact ⟨clear, fun starts => by cases starts⟩
  | _ => cases calls

theorem WorldKept.callsBack (kept : WorldKept options stored world) {call : Nat} :
    WorldKept options stored (world.callsBack key call) := by
  unfold World.callsBack
  split
  · exact kept
  next advance present =>
  split
  · exact kept
  next op found =>
  split
  · exact kept
  next program calls =>
  have mine := kept.advances key advance present
  have quiet (other : Advance) (after : Advance) (lease : after.lease = other.lease)
      (released : after.released = false → other.released = false) :
      Beside options world (world.put key { advance with callbacks := advance.callbacks ++ [(op, .ready program)] })
        other after := beside_quiet rfl le_rfl rfl lease released
  refine kept.moved kept.record kept.issued rfl ?_ rfl ?_ ?_
  · exact kept.sendings.kept rfl le_rfl (Kept.refl _)
  · refine { mine with step := ?_ }
    intro alive living
    obtain ⟨known, step⟩ := mine.step alive living
    have moved {own : Known} {thread : Thread} {post : Except Failure Unit → Known → Local → Local → Prop}
        (thread : ThreadKept options stored alive world advance own post thread) := thread.beside
      (quiet advance { advance with callbacks := advance.callbacks ++ [(op, .ready program)] } rfl id) mine.genuine
      mine.issued thread.guarded fun _ => rfl
    refine ⟨known, moved step.thread, step.stepping, step.recorded, step.finished, step.unsent, step.starting,
      step.calls, ?_⟩
    intro callback member
    rcases List.mem_append.mp member with old | new
    · obtain ⟨own, calls⟩ := step.callbacks callback old
      exact ⟨own, moved calls.thread, calls.core, calls.shares⟩
    · rw [List.mem_singleton.mp new]
      obtain ⟨own, calls⟩ := step.called (List.mem_of_getElem? found) calls
      exact ⟨own, moved calls.thread, calls.core, calls.shares⟩
  · intro otherKey other _ otherPresent
    exact ⟨quiet other other rfl id, id, LeaseFollows.of_same rfl, fun _ _ => rfl, [], rfl, fun _ _ _ member => by cases member⟩

theorem WorldKept.begins (kept : WorldKept options stored world)
    (agrees : ∀ record ∈ (world.begins options worker key).past, SameRecord record (stored record.revision)) :
    WorldKept options stored (world.begins options worker key) := by
  unfold World.begins at agrees ⊢
  split
  · exact kept
  next free =>
  rw [if_neg free] at agrees
  cases claims : claimRecord world.record worker world.clock options.leaseMs with
  | none => exact kept
  | some claimed =>
    obtain ⟨same, lease, leased, owner, -⟩ := claimRecord_claimed claims
    simp only [claims, leased] at agrees ⊢
    obtain ⟨sound, issued, keeps⟩ := kept.relet same
    have genuine : Genuine options stored claimed := ⟨agrees claimed (List.mem_cons_self ..), sound⟩
    simp only [not_or, Option.isSome_iff_ne_none, not_not] at free
    refine kept.moved genuine issued rfl (kept.sendings.kept rfl le_rfl keeps) rfl ?_ ?_
    · refine ⟨genuine, issued, owner, ⟨lease, leased, le_rfl, fun _ => owner⟩, ?_, (fun ended => by cases ended),
        (fun id starts => by cases starts), ?_⟩
      · intro _
        exact Function.update_self ..
      · intro alive _
        refine ⟨{ core := some (core claimed), expiry := none, mode := .free, unsent := none, count := 0 }, ?_, ?_, ?_, ?_,
          ?_, ?_, ?_, ?_⟩
        · refine ⟨Nat.zero_le _, (fun id held => by cases held), (fun expiry knows => by cases knows), trivial, ?_⟩
          intro later relied
          have relied : relies options stored alive _ (World.seen _ _) later := relied
          have same := relied.2.2.2
          apply advance_holds
          exact ⟨clear_later relied, rfl, same, core claimed, rfl, fun _ _ => rfl⟩
        · intro passing
          cases passing
        · exact fun _ => ⟨core claimed, rfl, fun _ => rfl⟩
        · intro released
          cases released
        · intro id unsent
          cases unsent
        · intro id starts
          cases starts
        · intro op member
          cases member
        · intro callback member
          cases member
    · intro otherKey other _ otherPresent
      refine ⟨⟨le_rfl, le_rfl, rfl, id, ?_⟩, ?_, claimRecord_follows claims, fun _ _ => same.core, [], rfl,
        fun _ _ _ member => by cases member⟩
      · intro _ held had _ expiry unexpired bounded
        exact claimed_held claims had unexpired bounded
      · intro runs
        show Function.update world.running worker (some key) other.worker = some otherKey
        rw [Function.update_of_ne]
        · exact runs
        · intro worker
          rw [worker, free.2.1] at runs
          cases runs

theorem core_operatorInterrupt (view : ManagedPlanExecution) (reason : InterruptReason) (id : String) (now : ℚ)
    (overrides : Option (String → Option StageModelSelection)) :
    core (patched view { interrupt view reason id now with overrides }) = core view := by
  unfold interrupt
  split
  · next idle =>
    apply core_quiet rfl rfl rfl
    have before : startId view = none := by
      unfold startId
      rw [idle]
      rfl
    rw [before]
    rfl
  · exact core_quiet rfl rfl rfl (startId_kept rfl)

theorem core_operator {view : ManagedPlanExecution} {id : String} {now : ℚ} {change : OperatorChange}
    {patch : ManagedPlanExecutionPatch} (asked : operatorPatch view id now change = .ok patch) :
    core (patched view patch) = core view := by
  cases change with
  | control action =>
    simp only [operatorPatch, executionControlPatch] at asked
    split at asked
    · cases asked
    · split at asked
      · cases asked
        exact core_operatorInterrupt view .pause id now (interrupt view .pause id now).overrides
      · split at asked
        · cases asked
        · split at asked
          · cases asked
          · cases asked
            exact core_quiet rfl rfl rfl (startId_kept rfl)
  | override stageId selection =>
    simp only [operatorPatch, stageOverridePatch] at asked
    split at asked
    · cases asked
    · split at asked
      · cases asked
        exact core_operatorInterrupt ..
      · cases asked
        exact core_quiet rfl rfl rfl (startId_kept rfl)

theorem aside_same {key : Nat} (clock : world.clock ≤ next.clock) (nextId : world.nextId ≤ next.nextId)
    (lease : next.record.lease = world.record.lease) (same : core next.record = core world.record)
    (sendings : next.sendings = world.sendings)
    (running : world.running advance.worker = some key → next.running advance.worker = some key) :
    Aside options world next advance key where
  beside := by
    refine ⟨clock, nextId, rfl, id, ?_⟩
    intro _ held leased _ expiry unexpired _
    exact .inr ⟨held, lease.trans leased, rfl, unexpired⟩
  running
  follows := LeaseFollows.of_same lease
  core := fun _ _ => same
  sendings := ⟨[], sendings, fun _ _ _ member => by cases member⟩

theorem WorldKept.operatorPatches (kept : WorldKept options stored world) {view : Nat} {change : OperatorChange}
    (agrees : ∀ record ∈ (world.operatorPatches options view change).past, SameRecord record (stored record.revision)) :
    WorldKept options stored (world.operatorPatches options view change) := by
  unfold World.operatorPatches at agrees ⊢
  split
  · exact kept
  next execution found =>
  simp only [found] at agrees
  have drawn : WorldKept options stored { world with nextId := world.nextId + 1 } := by
    refine kept.aside kept.record (kept.issued.mono (Nat.le_succ _)) kept.views
      (kept.sendings.kept rfl (Nat.le_succ _) (Kept.refl _)) ?_
    intro key advance present
    exact ⟨present, aside_same le_rfl (Nat.le_succ _) rfl rfl rfl id⟩
  cases asked : operatorPatch execution (options.ids.uuid world.nextId) world.clock change with
  | error message => exact drawn
  | ok patch =>
    dsimp only
    cases updated : updateRecord world.record execution.revision patch none world.clock with
    | error message => exact drawn
    | ok record =>
      simp only [asked, updated] at agrees
      have genuine := kept.views execution (List.mem_of_getElem? found)
      obtain ⟨landed, sound, keeps, lease⟩ := kept.patched genuine (lawful_operator genuine.2 asked) updated
      have same : core record = core world.record := by
        refine (landed.core.trans (core_operator asked)).trans (SameRecord.core ?_)
        refine genuine.1.trans (SameRecord.symm ?_)
        rw [← (updateRecord_updated updated).1]
        exact kept.record.1
      have issued : Issued options.ids (world.nextId + 1) record :=
        (kept.issued.mono (Nat.le_succ _)).of_keys (congrArg keys (congrArg Core.attempts same))
      refine kept.aside ⟨agrees record (List.mem_cons_self ..), sound⟩ issued kept.views
        (kept.sendings.kept rfl (Nat.le_succ _) keeps) ?_
      intro key advance present
      exact ⟨present, aside_same le_rfl (Nat.le_succ _) lease same rfl id⟩

/-- One event keeps what holds of the fleet, where the record it stores is the one of its revision. -/
theorem WorldKept.step (kept : WorldKept options stored world) {event : Event} (may : world.allowed event)
    (agrees : ∀ record ∈ (world.step options event).past, SameRecord record (stored record.revision)) :
    WorldKept options stored (world.step options event) := by
  have still {next : World} (record : next.record = world.record) (clock : world.clock ≤ next.clock)
      (nextId : next.nextId = world.nextId) (sendings : next.sendings = world.sendings)
      (views : ∀ view ∈ next.views, Genuine options stored view)
      (advances : ∀ key advance, next.advances key = some advance → world.advances key = some advance ∧
        (world.running advance.worker = some key → next.running advance.worker = some key)) :
      WorldKept options stored next := by
    refine kept.aside ?_ ?_ views (kept.sendings.kept sendings nextId.ge ?_) ?_
    · rw [record]
      exact kept.record
    · rw [record, nextId]
      exact kept.issued
    · rw [record]
      exact Kept.refl _
    · intro key advance present
      obtain ⟨before, runs⟩ := advances key advance present
      exact ⟨before, aside_same clock nextId.ge (congrArg _ record) (congrArg _ record) sendings runs⟩
  cases event with
  | tick now => exact still rfl may rfl rfl kept.views fun _ _ present => ⟨present, id⟩
  | begins worker key => exact kept.begins agrees
  | performs key slot reply driver => exact kept.performs agrees
  | resumes key slot evidence => exact kept.resumes
  | callsBack key call => exact kept.callsBack
  | operatorReads =>
    refine still rfl le_rfl rfl rfl ?_ fun _ _ present => ⟨present, id⟩
    intro view member
    rcases List.mem_append.mp member with old | new
    · exact kept.views view old
    · rw [List.mem_singleton.mp new]
      exact kept.record
  | operatorPatches view change => exact kept.operatorPatches agrees
  | closes worker => exact still rfl le_rfl rfl rfl kept.views fun _ _ present => ⟨present, id⟩
  | cleared worker =>
    simp only [World.step]
    split
    · exact still rfl le_rfl rfl rfl kept.views fun _ _ present => ⟨present, id⟩
    · exact kept
  | crashes worker =>
    refine still rfl le_rfl rfl rfl kept.views ?_
    intro key advance present
    obtain ⟨before, other⟩ := Option.filter_eq_some_iff.mp present
    refine ⟨before, ?_⟩
    intro runs
    have apart : advance.worker ≠ worker := by simpa using other
    exact (Function.update_of_ne apart ..).trans runs

end

end SpaceApp.Plans
