import SpaceApp.Api.Setup.FinishedRuns

/-! What `listRunEvents` returns: the next events of the run without a gap, unless the events of
other runs have pushed out all of its own. -/

set_option autoImplicit false

namespace SpaceApp.Setup

open SpaceApp.Foundation

section

variable {host : SetupHost} {store : Store} {request : Request} {state next : SetupExecutionState} {run : SetupRun}
  {chosen : SetupTask → Bool} {change : SetupTask → SetupTask} {finish : List SetupTask → SetupRun → SetupRun}
  {events : List SetupExecutionEvent} {allowed : Store → Request → Prop}

def eventsOf (events : List SetupExecutionEvent) (runId : Uuid) : List SetupExecutionEvent :=
  events.filter fun event => event.runId = runId

/-- The events are the last ones of `1, …, count`. -/
def Numbered (events : List SetupExecutionEvent) (count : Nat) : Prop :=
  events.map (·.sequence) <:+ List.range' 1 count

theorem Numbered.of_suffix {later : List SetupExecutionEvent} {count : Nat} (numbered : Numbered events count)
    (suffix : later <:+ events) : Numbered later count := (suffix.map _).trans numbered

theorem lastOf_suffix {Item : Type} (count : Nat) (items : List Item) : lastOf count items <:+ items :=
  List.drop_suffix _ _

/-- The next event of the run comes last, and the oldest of all may leave. -/
theorem event_suffix (now : ℤ) (noted : Noted) (task : SetupTask) : ∃ one : SetupExecutionEvent,
    one.runId = noted.run.id ∧ one.sequence = noted.run.eventSequence + 1 ∧
      (event now noted task).events <:+ noted.events ++ [one] := by
  refine ⟨{ runId := noted.run.id, sequence := noted.run.eventSequence + 1, taskId := task.id
            state := task.status, reasonCode := task.errorCode, createdAt := now }, rfl, rfl, ?_⟩
  simp only [event]
  apply lastOf_suffix

theorem eventsOf_suffix {later : List SetupExecutionEvent} (suffix : later <:+ events) (runId : Uuid) :
    eventsOf later runId <:+ eventsOf events runId := suffix.filter _

theorem Numbered.event {noted : Noted} (numbered : Numbered (eventsOf noted.events noted.run.id) noted.run.eventSequence)
    (now : ℤ) (task : SetupTask) :
    Numbered (eventsOf (event now noted task).events noted.run.id) (noted.run.eventSequence + 1) := by
  obtain ⟨one, own, next, suffix⟩ := event_suffix now noted task
  refine Numbered.of_suffix ?_ (eventsOf_suffix suffix noted.run.id)
  obtain ⟨front, same⟩ := numbered
  refine ⟨front, ?_⟩
  rw [List.range'_concat, Nat.one_mul, Nat.add_comm 1, ← same, List.append_assoc]
  congr 1
  simp [eventsOf, own, next]

/-- Another run's events: the oldest of them may leave. -/
theorem event_others {noted : Noted} {runId : Uuid} (apart : runId ≠ noted.run.id) (now : ℤ) (task : SetupTask) :
    eventsOf (event now noted task).events runId <:+ eventsOf noted.events runId := by
  obtain ⟨one, own, -, suffix⟩ := event_suffix now noted task
  have kept := eventsOf_suffix suffix runId
  have away : one.runId ≠ runId := by
    rw [own]
    exact apart.symm
  have same : eventsOf (noted.events ++ [one]) runId = eventsOf noted.events runId := by simp [eventsOf, away]
  rwa [same] at kept

theorem numbered_events (now : ℤ) (tasks : List SetupTask) {noted : Noted}
    (numbered : Numbered (eventsOf noted.events noted.run.id) noted.run.eventSequence) :
    Numbered (eventsOf (tasks.foldl (event now) noted).events noted.run.id) (noted.run.eventSequence + tasks.length) := by
  induction tasks generalizing noted with
  | nil => exact numbered
  | cons task rest ih =>
    have later : Numbered (eventsOf (Setup.event now noted task).events (Setup.event now noted task).run.id)
        (Setup.event now noted task).run.eventSequence := numbered.event now task
    rw [List.length_cons, Nat.add_comm rest.length, ← Nat.add_assoc]
    exact ih later

theorem events_others (now : ℤ) (tasks : List SetupTask) {noted : Noted} {runId : Uuid} (apart : runId ≠ noted.run.id) :
    eventsOf (tasks.foldl (event now) noted).events runId <:+ eventsOf noted.events runId := by
  induction tasks generalizing noted with
  | nil => exact List.suffix_refl _
  | cons task rest ih =>
    have later : runId ≠ (event now noted task).run.id := apart
    exact (ih later).trans (event_others apart now task)

def AllNumbered (state : SetupExecutionState) : Prop :=
  ∀ run ∈ state.runs, Numbered (eventsOf state.events run.id) run.eventSequence

theorem AllNumbered.settled (numbered : AllNumbered state) (member : run ∈ state.runs) (finishes : Finishes finish)
    (settled : Settled state run chosen change finish next) : AllNumbered next := by
  obtain ⟨now, receipts, settings, memory⟩ := settled
  intro after inside
  simp only [SetupExecutionState.settle, List.mem_map] at inside
  obtain ⟨item, before, rfl⟩ := inside
  by_cases own : item.id = run.id
  · rw [if_pos own, finishes.id, finishes.eventSequence, events_run]
    have known : Numbered (eventsOf (Noted.mk run state.events).events (Noted.mk run state.events).run.id)
        (Noted.mk run state.events).run.eventSequence := numbered run member
    exact numbered_events now _ known
  · rw [if_neg own]
    exact (numbered item before).of_suffix (events_others now _ own)

theorem AllNumbered.wrote {drawn : Nat} (numbered : AllNumbered state) (sound : Sound drawn state)
    (wrote : Wrote host drawn state request next) : AllNumbered next := by
  cases wrote with
  | drafted draft =>
    intro run member
    obtain ⟨before, old, rfl⟩ := List.mem_map.mp member
    have known := numbered before old
    unfold supersede
    split
    · exact known
    · exact known
  | planned plan effective built => exact numbered
  | started plan planned idle =>
    intro run member
    rcases List.mem_append.mp member with old | new
    · exact numbered run old
    · rw [List.mem_singleton.mp new]
      have none_ : eventsOf state.events drawn = [] := by
        unfold eventsOf
        rw [List.filter_eq_nil_iff]
        intro event inside same
        simp only [decide_eq_true_eq] at same
        exact Nat.ne_of_lt (sound.events event inside) same
      show Numbered (eventsOf state.events drawn) 0
      rw [none_]
      exact List.suffix_refl _
  | moved member moves settled => exact numbered.settled member moves.finishes settled

theorem AllNumbered.step (numbered : AllNumbered store.state) (sound : Sound store.drawn store.state) :
    AllNumbered (store.step host request).state := by
  refine step_state numbered (fun _ _ => numbered) fun next revision wrote _ => ?_
  intro run member
  have written := numbered.wrote sound wrote run (compact_shrinks.runs member)
  unfold eventsOf at written
  rw [← compact_eventsOf member] at written
  exact written

theorem reached_numbered (reached : Reached Store.created allowed (Store.step host) store) :
    AllNumbered store.state := by
  have both : Sound store.drawn store.state ∧ AllNumbered store.state := by
    apply reached.invariant
    · rintro state rfl
      refine ⟨empty_sound 0, ?_⟩
      intro run member
      cases member
    · rintro state request ⟨sound, numbered⟩ _
      exact ⟨sound.step request, numbered.step sound⟩
  exact both.2

def cursorExpired : SetupFailure :=
  .execution "SETUP_EVENT_CURSOR_EXPIRED" "Setup event cursor expired; reload the run snapshot."

/-- The page asks for a reload, or holds the next events of the run, as many as there are or fit. -/
def GapFree (state : SetupExecutionState) (run : SetupRun) (cursor limit : Nat) : Prop :=
  listRunEvents run.id cursor limit state = .error cursorExpired ∨
    ∃ page, listRunEvents run.id cursor limit state = .ok page ∧
      (∀ event ∈ page, event ∈ state.events ∧ event.runId = run.id) ∧
      page.map (·.sequence) = List.range' (cursor + 1) (min limit (run.eventSequence - cursor))

theorem findRun_member (distinct : (state.runs.map (·.id)).Nodup) (member : run ∈ state.runs) :
    findRun state run.id = .ok run := by
  unfold findRun
  cases found : state.runs.find? fun item => item.id = run.id with
  | none =>
    have missing := List.find?_eq_none.mp found run member
    simp at missing
  | some first =>
    have same := List.find?_some found
    simp only [decide_eq_true_eq] at same
    rw [same_run distinct (List.mem_of_find?_eq_some found) member same]

theorem listRunEvents_run (distinct : (state.runs.map (·.id)).Nodup) (member : run ∈ state.runs) {cursor limit : Nat}
    (least : 1 ≤ limit) (most : limit ≤ 100) : listRunEvents run.id cursor limit state =
      if (eventsOf state.events run.id).head?.any fun first => (cursor : ℤ) < (first.sequence : ℤ) - 1 then
        .error cursorExpired
      else .ok (((eventsOf state.events run.id).filter fun item => (cursor : ℤ) < item.sequence).take limit) := by
  have inBounds : ¬ ((cursor : ℤ) < 0 ∨ (limit : ℤ) < 1 ∨ 100 < (limit : ℤ)) := by omega
  unfold listRunEvents refuse
  rw [if_neg inBounds, findRun_member distinct member]
  unfold eventsOf
  by_cases expired : ((state.events.filter fun item => item.runId = run.id).head?.any fun first =>
      decide ((cursor : ℤ) < (first.sequence : ℤ) - 1)) = true
  · simp only [bind, Except.bind, expired, if_true]
    rfl
  · simp only [bind, Except.bind, pure, Except.pure, Int.toNat_natCast, expired]
    rfl

theorem range_suffix {numbers : List Nat} {count : Nat} (suffix : numbers <:+ List.range' 1 count) :
    ∃ first, first + numbers.length = count + 1 ∧ numbers = List.range' first numbers.length := by
  have short : numbers.length ≤ count := by simpa using suffix.length_le
  have dropped := List.suffix_iff_eq_drop.mp suffix
  rw [List.drop_range', List.length_range', Nat.mul_one] at dropped
  refine ⟨1 + (count - numbers.length), by omega, ?_⟩
  rw [show count - (count - numbers.length) = numbers.length by omega] at dropped
  exact dropped

theorem beyond_range (first count cursor : Nat) (reached : first ≤ cursor + 1) :
    (List.range' first count).filter (fun number => decide (cursor < number)) =
      List.range' (cursor + 1) (first + count - (cursor + 1)) := by
  induction count generalizing first with
  | zero =>
    rw [show first + 0 - (cursor + 1) = 0 by omega]
    rfl
  | succ count ih =>
    rw [List.range'_succ, List.filter_cons]
    by_cases past : cursor < first
    · have same : first = cursor + 1 := by omega
      subst same
      rw [if_pos (by simp)]
      rw [show cursor + 1 + (count + 1) - (cursor + 1) = count + 1 by omega, List.range'_succ]
      congr 1
      rw [List.filter_eq_self]
      intro number member
      have := List.mem_range'_1.mp member
      simp only [decide_eq_true_eq]
      omega
    · rw [if_neg (by simpa using past), ih (first + 1) (by omega)]
      congr 1
      omega

theorem page_sequences (events : List SetupExecutionEvent) (cursor limit : Nat) :
    ((events.filter fun item => (cursor : ℤ) < item.sequence).take limit).map (·.sequence) =
      ((events.map (·.sequence)).filter fun number => cursor < number).take limit := by
  rw [List.map_take, List.filter_map]
  congr 2
  apply List.filter_congr
  intro event _
  simp

/-- A page has no gap exactly if an event of the run is still there, or the cursor has reached the
run's last one. -/
theorem page_gap_free_iff (reached : Reached Store.created allowed (Store.step host) store)
    (member : run ∈ store.state.runs) {cursor limit : Nat} (least : 1 ≤ limit) (most : limit ≤ 100) :
    GapFree store.state run cursor limit ↔
      (∃ event ∈ store.state.events, event.runId = run.id) ∨ run.eventSequence ≤ cursor := by
  have numbered := reached_numbered reached run member
  have listed := @listRunEvents_run _ _ (reached_sound reached).runIds member cursor limit least most
  have inside {event : SetupExecutionEvent} (inside : event ∈ eventsOf store.state.events run.id) :
      event ∈ store.state.events ∧ event.runId = run.id := by
    simpa [eventsOf] using inside
  unfold GapFree
  rw [listed]
  unfold Numbered at numbered
  cases events : eventsOf store.state.events run.id with
  | nil =>
    have none_ : ¬ ∃ event ∈ store.state.events, event.runId = run.id := by
      rintro ⟨event, known, own⟩
      have here : event ∈ eventsOf store.state.events run.id := by simpa [eventsOf] using ⟨known, own⟩
      rw [events] at here
      cases here
    simp [none_]
    omega
  | cons first rest =>
    rw [events] at numbered
    obtain ⟨here, last, range⟩ := range_suffix numbered
    have known : first ∈ eventsOf store.state.events run.id := by
      rw [events]
      exact List.mem_cons_self
    refine iff_of_true ?_ (.inl ⟨first, inside known⟩)
    have head : first.sequence = here := by
      rw [List.map_cons, List.length_cons, List.range'_succ] at range
      exact (List.cons.inj range).1
    by_cases expired : (cursor : ℤ) < (first.sequence : ℤ) - 1
    · left
      simp [expired]
    · right
      refine ⟨((first :: rest).filter fun item => (cursor : ℤ) < item.sequence).take limit, by simp [expired], ?_, ?_⟩
      · intro event member
        apply inside
        rw [events]
        exact List.mem_of_mem_filter (List.mem_of_mem_take member)
      · rw [page_sequences, range, beyond_range _ _ _ (by omega), last,
          show run.eventSequence + 1 - (cursor + 1) = run.eventSequence - cursor by omega]
        rcases Nat.le_total limit (run.eventSequence - cursor) with fits | short
        · rw [List.take_range'_of_length_ge fits, Nat.min_eq_left fits]
        · rw [List.take_range'_of_length_le short, Nat.min_eq_right short]

theorem empty_page_gap {cursor limit : Nat}
    (empty : (listRunEvents run.id cursor limit state).toOption.map (·.length) = some 0)
    (beyond : cursor < run.eventSequence) (least : 1 ≤ limit) : ¬ GapFree state run cursor limit := by
  rintro (expired | ⟨page, listed, -, numbers⟩)
  · rw [expired] at empty
    cases empty
  · rw [listed] at empty
    have none_ : page.length = 0 := by simpa [Except.toOption] using empty
    have all := congrArg List.length numbers
    rw [List.length_map, List.length_range', none_] at all
    omega

end

namespace Sample

def agentChoices : DraftChoices where
  persona := .everyday
  level := .minimal
  requestedFeatureIds := [⟨.pane, "chat"⟩, ⟨.dock, "room-agent"⟩]
  connectionChoices := []

def prepare (runId : Uuid) : SetupTaskId := ⟨runId, prepareOpencodeId⟩

def failing (runId : Uuid) : List Request := [lease runId, fail (prepare runId)]

/-- The run 2 fails at once, and the run 5 is retried again and again. -/
def crowded : List Request := [
  .updateDraft none agentChoices 0,
  .createPlan 0 (fun _ => some .available) [] 0,
  .startRun 1 digest "start:first" 0] ++ failing 2 ++ [.startRun 1 digest "start:second" 0] ++
  (List.range 56).flatMap fun round => failing 5 ++ [.retryFailedTasks 5 [prepare 5] (3 + 3 * round) 0]

end Sample

theorem page_gap_free_sample :
    ∃ run ∈ (Sample.run (Sample.started ++ [Sample.lease 2, Sample.fail (Sample.rooms 2)])).state.runs,
      run.eventSequence = 2 ∧
        GapFree (Sample.run (Sample.started ++ [Sample.lease 2, Sample.fail (Sample.rooms 2)])).state run 1 100 := by
  obtain ⟨run, member, count, kept⟩ :
      ∃ run ∈ (Sample.run (Sample.started ++ [Sample.lease 2, Sample.fail (Sample.rooms 2)])).state.runs,
        run.eventSequence = 2 ∧
          ∃ event ∈ (Sample.run (Sample.started ++ [Sample.lease 2, Sample.fail (Sample.rooms 2)])).state.events,
            event.runId = run.id := by
    decide +kernel
  exact ⟨run, member, count, (page_gap_free_iff (sample_reached _) member (by decide) (by decide)).mpr (.inl kept)⟩

theorem emptied_page_has_gap :
    Reached Store.created (fun _ _ => True) (Store.step Sample.host) (Sample.run Sample.crowded) ∧
      ∃ run ∈ (Sample.run Sample.crowded).state.runs, run.eventSequence = 2 ∧
        ¬ GapFree (Sample.run Sample.crowded).state run 0 100 := by
  obtain ⟨run, member, count, empty⟩ : ∃ run ∈ (Sample.run Sample.crowded).state.runs, run.eventSequence = 2 ∧
      (listRunEvents run.id 0 100 (Sample.run Sample.crowded).state).toOption.map (·.length) = some 0 := by
    decide +kernel
  exact ⟨sample_reached _, run, member, count, empty_page_gap empty (by omega) (by decide)⟩

end SpaceApp.Setup
