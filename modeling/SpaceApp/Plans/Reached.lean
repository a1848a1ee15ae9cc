import SpaceApp.Foundation.Choice
import SpaceApp.Plans.Guarantees

/-! The record and the STARTs sent, in every state the fleet reaches. -/

set_option autoImplicit false

namespace SpaceApp.Plans

open SpaceApp.Foundation

section

variable {options : ControllerOptions} {world next : World} {record after : ManagedPlanExecution}
  {past : List ManagedPlanExecution}

/-- A stored record is the one before it up to its lease, or the next revision of it. -/
def Succeeds (record next : ManagedPlanExecution) : Prop :=
  (SameRecord next record ∨ next.revision = record.revision + 1) ∧ next.snapshot = record.snapshot ∧ LeaseFollows record next

theorem succeeds_same (same : SameRecord after record) (follows : LeaseFollows record after) : Succeeds record after :=
  ⟨.inl same, same.read ManagedPlanExecution.snapshot fun _ => rfl, follows⟩

theorem succeeds_updated {revision : Nat} {patch : ManagedPlanExecutionPatch} {lease : Option PlanExecutionLease} {now : ℚ}
    (updated : updateRecord record revision patch lease now = .ok after) : Succeeds record after := by
  rw [updated_patched updated]
  exact ⟨.inr rfl, rfl, .of_same rfl⟩

theorem reply_succeeds {advance : Advance} {reply : Reply} {driver : (op : Op) → Op.Answer op} {op : Op}
    {answer : Op.Answer op} (replied : world.reply options advance reply driver op = (answer, after)) :
    Succeeds world.record after := by
  cases reply_stores replied with
  | same => exact succeeds_same rfl (.of_same rfl)
  | claims claimed => exact succeeds_same (claimRecord_claimed claimed).1 (claimRecord_follows claimed)
  | updates updated => exact succeeds_updated updated
  | releases => exact succeeds_same (releaseRecord_same _ _) (releaseRecord_follows _ _)

theorem step_stores (event : Event) :
    ((world.step options event).past = world.past ∧ (world.step options event).record = world.record) ∨
      ((world.step options event).past = (world.step options event).record :: world.past ∧
        Succeeds world.record (world.step options event).record) := by
  cases event with
  | begins worker key =>
    simp only [World.step, World.begins]
    split
    · exact .inl ⟨rfl, rfl⟩
    · split
      · exact .inl ⟨rfl, rfl⟩
      · next claimed claims =>
        split
        · exact .inl ⟨rfl, rfl⟩
        · exact .inr ⟨rfl, succeeds_same (claimRecord_claimed claims).1 (claimRecord_follows claims)⟩
  | performs key slot reply driver =>
    simp only [World.step, World.performs]
    split
    · exact .inl ⟨rfl, rfl⟩
    · split
      next advance _ _ op waits _ =>
        rcases replied : world.reply options advance reply driver op with ⟨answer, record⟩
        exact .inr ⟨rfl, reply_succeeds replied⟩
      · exact .inl ⟨rfl, rfl⟩
  | resumes key slot evidence =>
    simp only [World.step, World.resumes]
    split
    · exact .inl ⟨rfl, rfl⟩
    · split
      · exact .inl ⟨rfl, rfl⟩
      · exact .inl ⟨rfl, rfl⟩
  | callsBack key call =>
    simp only [World.step, World.callsBack]
    split
    · exact .inl ⟨rfl, rfl⟩
    · split
      · exact .inl ⟨rfl, rfl⟩
      · split
        · exact .inl ⟨rfl, rfl⟩
        · exact .inl ⟨rfl, rfl⟩
  | operatorPatches view change =>
    simp only [World.step, World.operatorPatches]
    split
    · exact .inl ⟨rfl, rfl⟩
    · split
      · exact .inl ⟨rfl, rfl⟩
      · split
        · exact .inl ⟨rfl, rfl⟩
        · next updated => exact .inr ⟨rfl, succeeds_updated updated⟩
  | cleared worker =>
    simp only [World.step]
    split
    · exact .inl ⟨rfl, rfl⟩
    · exact .inl ⟨rfl, rfl⟩
  | _ => exact .inl ⟨rfl, rfl⟩

/-- Two stored records of one revision differ in their leases at most. -/
structure Versions (record : ManagedPlanExecution) (past : List ManagedPlanExecution) : Prop where
  present : record ∈ past
  latest : ∀ old ∈ past, old.revision ≤ record.revision
  consistent : ∀ first ∈ past, ∀ second ∈ past, first.revision = second.revision → SameRecord first second

theorem Versions.stored (versions : Versions record past) (succeeds : Succeeds record after) :
    Versions after (after :: past) := by
  have bounded : record.revision ≤ after.revision := by
    rcases succeeds.1 with same | grown
    · exact same.revision.ge
    · omega
  -- a revision reached before is the one that stays
  have meets (old : ManagedPlanExecution) (member : old ∈ past) (same : after.revision = old.revision) :
      SameRecord after old := by
    rcases succeeds.1 with unchanged | grown
    · exact unchanged.trans
        (versions.consistent record versions.present old member (unchanged.revision.symm.trans same))
    · have := versions.latest old member
      omega
  constructor
  · exact List.mem_cons_self ..
  · intro old member
    rcases List.mem_cons.mp member with rfl | before
    · exact Nat.le_refl _
    · exact (versions.latest old before).trans bounded
  · intro first memberFirst second memberSecond same
    rcases List.mem_cons.mp memberFirst with rfl | firstOld
    · rcases List.mem_cons.mp memberSecond with rfl | secondOld
      · rfl
      · exact meets second secondOld same
    · rcases List.mem_cons.mp memberSecond with rfl | secondOld
      · exact (meets first firstOld same.symm).symm
      · exact versions.consistent first firstOld second secondOld same

/-- There is one record of each revision, up to its lease. -/
theorem Versions.assigns (versions : Versions record past) :
    ∃ stored : Nat → ManagedPlanExecution, ∀ old ∈ past, SameRecord old (stored old.revision) := by
  refine ⟨fun revision => (past.find? fun old => old.revision = revision).getD record, ?_⟩
  intro old member
  cases found : past.find? fun other => other.revision = old.revision with
  | none =>
    have missing := List.find?_eq_none.mp found old member
    simp at missing
  | some first =>
    have same : first.revision = old.revision := by simpa using List.find?_some found
    simp only [found, Option.getD_some]
    exact versions.consistent old member first (List.mem_of_find?_eq_some found) same.symm

theorem new_kept (input : CreateManagedPlanExecution) (clock : ℚ) {stored : Nat → ManagedPlanExecution}
    (agrees : SameRecord (newPlanExecution input) (stored 0)) : WorldKept options stored
      { record := newPlanExecution input, clock, past := [newPlanExecution input] } := by
  have positive : 0 ≤ options.stageLimit := by
    have least : (1 : ℤ) ≤ options.stageLimit := le_max_left _ _
    omega
  refine ⟨⟨agrees, new_sound input positive⟩, ?_, ?_, ?_, ?_⟩
  · intro key member
    cases member
  · intro view member
    cases member
  · intro key advance present
    cases present
  · refine ⟨?_, List.nodup_nil, ?_, ?_, ?_, List.Pairwise.nil⟩
    all_goals
      intro sending member
      cases member

/-- What holds of the fleet holds whatever `stored` says of revisions still to come. -/
structure Invariant (options : ControllerOptions) (snapshot : PlanSnapshot) (world : World) : Prop where
  versions : Versions world.record world.past
  snapshot : world.record.snapshot = snapshot
  kept : ∀ stored : Nat → ManagedPlanExecution, (∀ old ∈ world.past, SameRecord old (stored old.revision)) →
    WorldKept options stored world

theorem Invariant.step {snapshot : PlanSnapshot} (invariant : Invariant options snapshot world) {event : Event}
    (may : world.allowed event) : Invariant options snapshot (world.step options event) := by
  have grows : ∀ old ∈ world.past, old ∈ (world.step options event).past := by
    intro old member
    rcases step_stores event with ⟨past, -⟩ | ⟨past, -⟩
    · rw [past]
      exact member
    · rw [past]
      exact List.mem_cons_of_mem _ member
  constructor
  · rcases step_stores event with ⟨past, record⟩ | ⟨past, succeeds⟩
    · rw [past, record]
      exact invariant.versions
    · rw [past]
      exact invariant.versions.stored succeeds
  · rcases step_stores event with ⟨-, record⟩ | ⟨-, succeeds⟩
    · rw [record]
      exact invariant.snapshot
    · exact succeeds.2.1.trans invariant.snapshot
  · intro stored agrees
    exact (invariant.kept stored fun old member => agrees old (grows old member)).step may agrees

section
variable {input : CreateManagedPlanExecution}
  (reached : Reached (World.created input) World.allowed (World.step options) world)

include reached

theorem reached_invariant : Invariant options input.snapshot world := by
  apply reached.invariant
  · rintro first ⟨clock, rfl⟩
    refine ⟨⟨List.mem_singleton.mpr rfl, ?_, ?_⟩, rfl, ?_⟩
    · intro old member
      rw [List.mem_singleton.mp member]
    · intro first memberFirst second memberSecond _
      rw [List.mem_singleton.mp memberFirst, List.mem_singleton.mp memberSecond]
      rfl
    · intro stored agrees
      exact new_kept input clock (agrees _ (List.mem_singleton.mpr rfl))
  · intro state event invariant may
    exact invariant.step may

theorem reached_kept : ∃ stored, WorldKept options stored world := by
  have invariant := reached_invariant reached
  obtain ⟨stored, agrees⟩ := invariant.versions.assigns
  exact ⟨stored, invariant.kept stored agrees⟩

end

end

namespace Sample

def options : ControllerOptions where
  ids := {
    uuid := fun index => String.ofList (List.replicate index 'x')
    distinct := by
      intro first second same
      simpa using congrArg String.length same }

def input : CreateManagedPlanExecution where
  threadId := "thread"
  cwd := "/work"
  snapshot := {
    text := js "One stage."
    stages := [{
      id := "stage", order := 1, title := js "Build", instructions := js "Build it."
      completionCriteria := [js "It builds."], modelId := "model", reasoningEffort := "low" }] }
  staged := by simp

/-- An idle native thread that takes every command. -/
def driver : (op : Op) → Op.Answer op
  | .resolve _ => .ok {}
  | .readThread _ => .ok { id := "thread", cwd := "/work", modelId := "model", reasoningEffort := "low", status := .idle }
  | .readThreadSettings _ => .ok { modelId := "model", reasoningEffort := "low", cwd := "/work", isTurnActive := false }
  | .listModels => .ok [{ id := "model", supportedReasoningEfforts := ["low"] }]
  | .updateThreadSettings _ _ _ => .ok ()
  | .startManagedTurn _ _ _ _ _ => .ok "turn"
  | .interruptTurn _ _ _ => .ok ()
  | _ => .error (.other "not the driver's")

/-- One controller's step, each of its questions answered at once. -/
def events : List Event :=
  .begins 0 0 :: (List.replicate 28 [Event.resumes 0 none fun _ => { status := .observing, selection := none },
    .performs 0 none .served driver]).flatten

def world : World :=
  events.foldl (World.step options) { record := newPlanExecution input, clock := 0, past := [newPlanExecution input] }

end Sample

theorem allowed_untimed {options : ControllerOptions} {events : List Event}
    (untimed : ∀ event ∈ events, ∀ now, event ≠ .tick now) (world : World) :
    AllowedRun World.allowed (World.step options) world events := by
  induction events generalizing world with
  | nil => trivial
  | cons event rest ih =>
    refine ⟨?_, ih (fun other member => untimed other (List.mem_cons_of_mem _ member)) _⟩
    cases event with
    | tick now => exact absurd rfl (untimed _ (List.mem_cons_self ..) now)
    | _ => trivial

theorem sample_reached :
    Reached (World.created Sample.input) World.allowed (World.step Sample.options) Sample.world := by
  apply Reached.run (.start ⟨0, rfl⟩)
  apply allowed_untimed
  intro event member now same
  subst same
  simp [Sample.events] at member

section

variable {options : ControllerOptions} {world : World} {record : ManagedPlanExecution}

theorem AttemptsKept.one_active {limit : ℤ} (kept : AttemptsKept limit record) :
    (record.attempts.filter (·.active)).length ≤ 1 := by
  rw [← List.countP_eq_length_filter]
  apply countP_le_one
  · have distinct := kept.idsDistinct
    unfold keys at distinct
    rw [List.map_map] at distinct
    exact List.Nodup.of_map _ distinct
  · intro first memberFirst second memberSecond liveFirst liveSecond
    have mine := kept.pending first memberFirst liveFirst
    rw [kept.pending second memberSecond liveSecond] at mine
    exact kept.same_command memberFirst memberSecond (Option.some.inj mine).symm

theorem AttemptsKept.active_pending {limit : ℤ} (kept : AttemptsKept limit record) (id : String) :
    (∃ attempt ∈ record.attempts, attempt.active = true ∧ attempt.commandId = id) ↔
      ∃ command, record.pendingCommand = some command ∧ command.type = .start ∧ command.id = id := by
  rw [← startId_some]
  constructor
  · rintro ⟨attempt, member, live, rfl⟩
    exact kept.pending attempt member live
  · exact kept.attempted id

theorem trunc_le {value : ℚ} (nonneg : 0 ≤ value) : (trunc value : ℚ) ≤ value := by
  unfold trunc
  rw [if_pos nonneg]
  exact Int.floor_le value

theorem stageLimit_le (options : ControllerOptions) :
    (options.stageLimit : ℚ) ≤ max 1 (options.maxStageAttempts.getD DEFAULT_PLAN_STAGE_MAX_ATTEMPTS) := by
  unfold ControllerOptions.stageLimit
  generalize options.maxStageAttempts.getD DEFAULT_PLAN_STAGE_MAX_ATTEMPTS = asked
  push_cast
  apply max_le (le_max_left _ _)
  rcases le_or_gt 0 asked with nonneg | negative
  · exact (trunc_le nonneg).trans (le_max_right _ _)
  · -- what is cut off below zero stays at most zero
    have cut : trunc asked ≤ 0 := by
      unfold trunc
      rw [if_neg (not_le.mpr negative)]
      exact Int.ceil_le.mpr (by exact_mod_cast negative.le)
    have small : (trunc asked : ℚ) ≤ 0 := by exact_mod_cast cut
    exact (small.trans zero_le_one).trans (le_max_left _ _)

theorem attempts_limited {limit : ℤ} (kept : AttemptsKept limit record) (stageId : String) :
    ((record.attempts.filter fun attempt => attempt.stageId = stageId).length : ℤ) ≤ limit := by
  have limited := kept.limited stageId
  unfold keys at limited
  rw [List.filter_map, List.length_map] at limited
  exact limited

/-- The stages are completed one after the other, the one attempt under way is that of the
pending START, and no stage has more attempts than it may. -/
theorem reached_record {input : CreateManagedPlanExecution}
    (reached : Reached (World.created input) World.allowed (World.step options) world) :
    ∃ completed ≤ input.snapshot.stages.length,
      world.record.completedStageIds = (input.snapshot.stages.map (·.id)).take completed ∧
      world.record.activeStageIndex = min completed (input.snapshot.stages.length - 1) ∧
      (world.record.status = .completed ↔ completed = input.snapshot.stages.length) ∧
      (world.record.attempts.filter (·.active)).length ≤ 1 ∧
      (∀ id, (∃ attempt ∈ world.record.attempts, attempt.active = true ∧ attempt.commandId = id) ↔
        ∃ command, world.record.pendingCommand = some command ∧ command.type = .start ∧ command.id = id) ∧
      (world.record.interruptCommand.isSome →
        ∃ command, world.record.pendingCommand = some command ∧ command.type = .start) ∧
      ∀ stageId, ((world.record.attempts.filter fun attempt => attempt.stageId = stageId).length : ℚ) ≤
        max 1 (options.maxStageAttempts.getD DEFAULT_PLAN_STAGE_MAX_ATTEMPTS) := by
  obtain ⟨stored, kept⟩ := reached_kept reached
  obtain ⟨progress, attempts⟩ := kept.record.2
  rw [← (reached_invariant reached).snapshot]
  refine ⟨world.record.completedStageIds.length, progress.within, progress.completed, progress.active,
    progress.finished, attempts.one_active, attempts.active_pending, ?_, ?_⟩
  · intro interrupts
    obtain ⟨id, started⟩ := Option.isSome_iff_exists.mp (attempts.interrupted interrupts)
    obtain ⟨command, pending, type, -⟩ := startId_some.mp started
    exact ⟨command, pending, type⟩
  · intro stageId
    have limited : ((world.record.attempts.filter fun attempt => attempt.stageId = stageId).length : ℚ) ≤
        (options.stageLimit : ℚ) := by exact_mod_cast attempts_limited attempts stageId
    exact limited.trans (stageLimit_le options)

theorem reached_record_sample : (∃ completed ≤ 1, Sample.world.record.completedStageIds = ["stage"].take completed ∧
      Sample.world.record.activeStageIndex = min completed 0) ∧
      (Sample.world.record.attempts.filter (·.active)).length = 1 ∧
      ∃ command, Sample.world.record.pendingCommand = some command ∧ command.type = .start ∧ command.id = "x" := by
  obtain ⟨completed, within, ids, active, -, atMost, pending, -, -⟩ := reached_record sample_reached
  have live : (Sample.world.record.attempts.filter (·.active)).map (·.commandId) = ["x"] := by decide +kernel
  refine ⟨⟨completed, within, ids, active⟩, ?_, ?_⟩
  · have same := congrArg List.length live
    rw [List.length_map] at same
    exact same
  · apply (pending "x").mp
    have member : "x" ∈ (Sample.world.record.attempts.filter (·.active)).map (·.commandId) := by
      rw [live]
      exact List.mem_singleton.mpr rfl
    obtain ⟨attempt, found, same⟩ := List.mem_map.mp member
    obtain ⟨inside, activeNow⟩ := List.mem_filter.mp found
    exact ⟨attempt, inside, activeNow, same⟩

theorem inactive_settled {attempt : ManagedPlanAttempt} (inactive : attempt.active = false) :
    attempt.status = .completed ∨ attempt.status = .interrupted ∨ attempt.status = .failed := by
  unfold ManagedPlanAttempt.active at inactive
  cases status : attempt.status with
  | prepared => simp [status] at inactive
  | running => simp [status] at inactive
  | completed => exact .inl rfl
  | interrupted => exact .inr (.inl rfl)
  | failed => exact .inr (.inr rfl)

theorem SendingsKept.settled_before (kept : SendingsKept options world) :
    world.sendings.Pairwise fun later earlier => earlier.commandId ≠ later.commandId →
      ∃ attempt ∈ later.attempts, attempt.commandId = earlier.commandId ∧
        (attempt.status = .completed ∨ attempt.status = .interrupted ∨ attempt.status = .failed) := by
  apply List.Pairwise.imp_of_mem ?_ kept.ordered
  intro later earlier memberLater _ recorded apart
  obtain ⟨key, inside, own⟩ := recorded
  obtain ⟨attempt, member, rfl⟩ := List.mem_map.mp inside
  refine ⟨attempt, member, own, inactive_settled ?_⟩
  apply kept.settled later memberLater attempt member
  intro same
  exact apart (own.symm.trans same)

theorem run_follows (events : List Event) :
    LeaseFollows world.record (events.foldl (World.step options) world).record := by
  induction events generalizing world with
  | nil => exact .of_same rfl
  | cons event rest ih =>
    intro held leased
    have follows : LeaseFollows world.record (world.step options event).record := by
      rcases step_stores event with ⟨-, same⟩ | ⟨-, succeeds⟩
      · exact .of_same (congrArg _ same)
      · exact succeeds.2.2
    obtain ⟨next, now, grown, own⟩ := follows held leased
    obtain ⟨last, ended, more, ownToo⟩ := ih next now
    refine ⟨last, ended, grown.trans more, fun same => ?_⟩
    rw [ownToo (by omega), own (by omega)]

/-- While a step's lease is valid, the repository takes a patch of no other step that holds one, then or at any later time. -/
theorem reached_sole_writer {input : CreateManagedPlanExecution}
    (reached : Reached (World.created input) World.allowed (World.step options) world) {key other : Nat}
    {advance rival : Advance} (present : world.advances key = some advance) (beside : world.advances other = some rival)
    (unreleased : advance.released = false) (rivalUnreleased : rival.released = false) (apart : other ≠ key)
    (valid : advance.lease.valid world.record world.clock = true) (events : List Event) (revision : Nat)
    (patch : ManagedPlanExecutionPatch) (now : ℚ) (next : ManagedPlanExecution) :
    updateRecord (events.foldl (World.step options) world).record revision patch (some rival.lease) now ≠ .ok next := by
  obtain ⟨stored, kept⟩ := reached_kept reached
  intro updated
  obtain ⟨last, current, same⟩ := valid_live ((updateRecord_updated updated).2.2 _ rfl)
  obtain ⟨held, leased, atMost, -⟩ := (kept.advances other rival beside).epoch
  obtain ⟨later, ended, grown, -⟩ := run_follows events held leased
  obtain rfl := Option.some.inj (current.symm.trans ended)
  exact apart (kept.sole present beside unreleased rivalUnreleased (valid_live valid) ⟨held, leased, by omega⟩)

theorem reached_sole_writer_taken :
    let world := [Event.begins 0 0, .tick 1000000, .begins 1 1].foldl (World.step Sample.options)
      { record := newPlanExecution Sample.input, clock := 0, past := [newPlanExecution Sample.input] }
    ∃ rival, world.advances 0 = some rival ∧
      ∀ next, updateRecord world.record 0 {} (some rival.lease) world.clock ≠ .ok next := by
  intro world
  have reached : Reached (World.created Sample.input) World.allowed (World.step Sample.options) world :=
    Reached.run (.start ⟨0, rfl⟩) ⟨trivial, show (0 : ℚ) ≤ 1000000 by decide +kernel, trivial, trivial⟩
  obtain ⟨advance, present, held⟩ := Option.map_eq_some_iff.mp (show (world.advances 1).map (fun advance =>
    (advance.released, advance.lease.valid world.record world.clock)) = some (false, true) by decide +kernel)
  obtain ⟨rival, beside, waits⟩ := Option.map_eq_some_iff.mp
    (show (world.advances 0).map (·.released) = some false by decide +kernel)
  exact ⟨rival, beside, reached_sole_writer reached present beside (Prod.mk.inj held).1 waits Nat.zero_ne_one
    (Prod.mk.inj held).2 [] 0 {} _⟩

/-- What was stored is one line of revisions: no record was written over another of its revision. -/
theorem reached_history {input : CreateManagedPlanExecution}
    (reached : Reached (World.created input) World.allowed (World.step options) world) :
    (∃ earlier, world.past = world.record :: earlier) ∧ world.past.IsChain (fun next record => Succeeds record next) ∧
      (∀ record ∈ world.past, record.revision ≤ world.record.revision) ∧
      ∀ first ∈ world.past, ∀ second ∈ world.past, first.revision = second.revision → SameRecord first second := by
  have line : (∃ earlier, world.past = world.record :: earlier) ∧
      world.past.IsChain (fun next record => Succeeds record next) := by
    apply reached.invariant
    · rintro first ⟨clock, rfl⟩
      exact ⟨⟨[], rfl⟩, .singleton _⟩
    · rintro state event ⟨⟨earlier, whole⟩, chain⟩ -
      rcases @step_stores options state event with ⟨past, record⟩ | ⟨past, succeeds⟩
      · rw [past, record]
        exact ⟨⟨earlier, whole⟩, chain⟩
      · rw [past]
        refine ⟨⟨_, rfl⟩, ?_⟩
        rw [whole] at chain ⊢
        exact .cons_cons succeeds chain
  have versions := (reached_invariant reached).versions
  exact ⟨line.1, line.2, versions.latest, versions.consistent⟩

theorem reached_history_sample : Sample.world.past.length = 30 ∧
    ∀ first ∈ Sample.world.past, ∀ second ∈ Sample.world.past, first.revision = second.revision → SameRecord first second :=
  ⟨by decide +kernel, (reached_history sample_reached).2.2.2⟩

/-- Each START is handed to the driver once at most; what its `beforeSend` lets through was handed
over before; and when one goes out, every earlier one has its attempt settled in the record. -/
theorem reached_starts {input : CreateManagedPlanExecution}
    (reached : Reached (World.created input) World.allowed (World.step options) world) :
    (handedIds world.sendings).Nodup ∧
      (∀ sending ∈ world.sendings, sending.commandId ∈ handedIds world.sendings) ∧
      (∀ sending ∈ world.sendings, ∀ attempt ∈ sending.attempts, attempt.commandId ≠ sending.commandId →
        attempt.status = .completed ∨ attempt.status = .interrupted ∨ attempt.status = .failed) ∧
      world.sendings.Pairwise fun later earlier => earlier.commandId ≠ later.commandId →
        ∃ attempt ∈ later.attempts, attempt.commandId = earlier.commandId ∧
          (attempt.status = .completed ∨ attempt.status = .interrupted ∨ attempt.status = .failed) := by
  obtain ⟨stored, kept⟩ := reached_kept reached
  have sendings := kept.sendings
  refine ⟨sendings.once, ?_, ?_, sendings.settled_before⟩
  · intro sending member
    obtain ⟨other, inside, handed, same⟩ := sendings.handed sending member
    exact List.mem_map.mpr ⟨other, List.mem_filter.mpr ⟨inside, handed⟩, same⟩
  · intro sending member attempt inside apart
    exact inactive_settled (sendings.settled sending member attempt inside apart)

theorem reached_starts_sample : handedIds Sample.world.sendings = ["x"] ∧ (handedIds Sample.world.sendings).Nodup ∧
      ∀ sending ∈ Sample.world.sendings, ∀ attempt ∈ sending.attempts, attempt.commandId ≠ sending.commandId →
        attempt.status = .completed ∨ attempt.status = .interrupted ∨ attempt.status = .failed :=
  ⟨by decide +kernel, (reached_starts sample_reached).1, (reached_starts sample_reached).2.2.1⟩

end

end SpaceApp.Plans
