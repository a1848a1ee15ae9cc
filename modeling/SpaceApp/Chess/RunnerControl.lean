import SpaceApp.Chess.Runner

/-! Who runs: the part of the runner that decides which run plays which state. Games only move inside it.

A start, resume or reset is apart from the others when it passes its check while no other call stands between its
check and its launch, the file is not being read, and the state a resume has loaded is still the runner's.
-/

set_option autoImplicit false

namespace SpaceApp.Chess

open SpaceApp.Foundation

structure RunShape where
  object : Option Nat
  decided : Nat
  ended : Bool

def Run.shape (run : Run) : RunShape := { object := run.object, decided := run.decided, ended := run.point = .ended }

structure ControlState where
  objects : Nat
  state : Option Nat
  loaded : Bool
  loop : Option Nat
  runs : List RunShape
  calls : List Call
  decisions : Nat
  unhandled : Bool

def CallPoint.isSaving : CallPoint → Bool
  | .saving _ _ => true
  | _ => false

namespace Runner

def control (runner : Runner) : ControlState where
  objects := runner.objects.length
  state := runner.state
  loaded := runner.loaded
  loop := runner.loop
  runs := runner.runs.map Run.shape
  calls := runner.calls
  decisions := runner.decisions
  unhandled := runner.unhandled

def CallKind.decides : CallKind → Bool
  | .start _ _ => true
  | .resume => true
  | .reset => true
  | _ => false

def apart (runner : Runner) : Event → Prop
  | .check call _ _ _ =>
    ∀ kind state, runner.calls[call]? = some ⟨kind, .loaded state⟩ → CallKind.decides kind → runner.loop = none →
      (∀ other ∈ runner.calls, other.point.isSaving = false ∧ other.point ≠ .reading) ∧
        (kind = .resume → state = runner.state)
  | _ => True

section

variable (runner : Runner)

@[simp]
theorem edit_control (object : Nat) (change : Tournament → Tournament) : (runner.edit object change).control = runner.control := by
  simp [edit, control]

theorem editRun_control {run : Nat} {change : Run → Run}
    (same : ∀ old, runner.runs[run]? = some old → (change old).shape = old.shape) :
    (runner.editRun run change).control = runner.control := by
  have shapes : (runner.runs.modify run change).map Run.shape = runner.runs.map Run.shape := by
    rw [List.ext_getElem?_iff]
    intro place
    rw [List.getElem?_map, List.getElem?_map, List.getElem?_modify]
    cases found : runner.runs[place]? with
    | none => rfl
    | some old =>
      by_cases own : run = place
      · subst own
        simp [same old found]
      · simp [own]
  simp [editRun, control, shapes]

theorem editRun_same {run : Nat} {change : Run → Run} (same : ∀ old, (change old).shape = old.shape) :
    (runner.editRun run change).control = runner.control := editRun_control runner fun old _ => same old

@[simp]
theorem touch_control (now : String) : (runner.touch now).control = runner.control := by
  unfold touch
  split
  · exact edit_control _ _ _
  · rfl

@[simp]
theorem persist_control (now : String) : (runner.persist now).control = runner.control := by
  unfold persist
  split
  · exact touch_control runner now
  · rfl

@[simp]
theorem leave_control (run game : Nat) : (runner.leave run game).control = runner.control :=
  editRun_control runner fun _ _ => rfl

@[simp]
theorem free_control (run : Nat) : (runner.free run).control = runner.control := editRun_control runner fun _ _ => rfl

theorem editRun_point_control {run : Nat} {point : RunPoint} (going : point ≠ .ended)
    (live : ∀ old, runner.runs[run]? = some old → old.point ≠ .ended) :
    (runner.editRun run fun old => { old with point }).control = runner.control :=
  editRun_control runner fun old found => by simp [Run.shape, going, live old found]

theorem live_of_control {other : Runner} (same : other.control = runner.control) {run : Nat}
    (live : ∀ old, runner.runs[run]? = some old → old.point ≠ .ended) {old : Run} (found : other.runs[run]? = some old) :
    old.point ≠ .ended := by
  have shapes := congrArg (fun state => state.runs[run]?) same
  simp only [control, List.getElem?_map, found, Option.map_some] at shapes
  cases there : runner.runs[run]? with
  | none => simp [there] at shapes
  | some before =>
    have going := live before there
    simp only [there, Option.map_some, Option.some.injEq, Run.shape, RunShape.mk.injEq] at shapes
    simpa [going] using shapes.2.2

theorem runFails_control {run : Nat} (object : Nat) (message now : String)
    (live : ∀ old, runner.runs[run]? = some old → old.point ≠ .ended) :
    (runner.runFails run object message now).control = runner.control := by
  simp only [runFails]
  have saved : ((runner.edit object fun tournament => tournament.edit fun state => failedState state message).persist
      now).control = runner.control := by simp
  rw [editRun_point_control _ (by simp) (fun old found => live_of_control runner saved live found), saved]

@[simp]
theorem workerFails_control (run object : Nat) (message now : String) :
    (runner.workerFails run object message now).control = runner.control := by
  unfold workerFails
  split
  · next pool =>
    refine runFails_control runner object message now fun old found ended => ?_
    simp [found, ended] at pool
  · rfl

@[simp]
theorem gameThrows_control (run object game : Nat) (message now : String) :
    (runner.gameThrows run object game message now).control = runner.control := by
  simp only [gameThrows]
  split <;> simp

section
variable (rating : ℚ → ℚ → ℚ → ℚ)

@[simp]
theorem finishGame_control (run object place : Nat) (game : ChessGame) (result : ChessResult)
    (reason : ChessGameEndReason) (forfeitedBy : Option ChessColor) (now : String) :
    (runner.finishGame rating run object place game result reason forfeitedBy now).control = runner.control := by
  have ended : ∀ finished, ({ runner.edit object fun tournament =>
      tournament.editGame place fun game => endGame game result reason now with finished := finished } : Runner).control =
        runner.control := fun finished => edit_control runner object _
  simp only [finishGame]
  split
  · rw [gameThrows_control, ended]
  · split
    · rw [gameThrows_control, ended]
    · split
      · rw [gameThrows_control, ended]
      · rw [free_control, leave_control, persist_control]
        exact (edit_control _ _ _).trans (ended _)

@[simp]
theorem turn_control (run object place : Nat) (game : ChessGame) (entry : Playing) (now : String) :
    (runner.turn rating run object place game entry now).control = runner.control := by
  simp only [turn]
  split
  · simp
  · split
    · simp
    · split <;> simp

theorem pick_control (run place : Nat) (now : String) :
    (runner.pick rating run place now).control = runner.control := by
  have taken : (runner.editRun run fun old =>
      { old with
        queue := old.queue.erase place
        idle := old.idle - 1 }).control = runner.control := editRun_control runner fun _ _ => rfl
  simp only [pick]
  split
  · rfl
  · split
    · rfl
    · split
      · rw [workerFails_control, taken]
      · split
        · rw [turn_control, editRun_same, edit_control, taken]
          exact fun _ => rfl
        · rw [workerFails_control, taken]

theorem answer_control (run place : Nat) (choice : Choice) (now : String) (save : Bool) :
    (runner.answer rating run place choice now save).control = runner.control := by
  simp only [answer]
  split
  · rfl
  · split
    · split
      · rfl
      · split
        · simp
        · rw [turn_control]
          split
          · rw [persist_control, editRun_same, touch_control, edit_control]
            exact fun _ => rfl
          · rw [editRun_same, touch_control, edit_control]
            exact fun _ => rfl
    · rfl

end

theorem abandon_control (run place : Nat) : (runner.abandon run place).control = runner.control := by
  simp only [abandon]
  split
  · rfl
  · simp

theorem round_control {run : Nat} (now : String) (live : ∀ old, runner.runs[run]? = some old → old.point ≠ .ended) :
    (runner.round run now).control = runner.control := by
  simp only [round]
  split
  · rfl
  · split
    · exact editRun_point_control runner (by simp) live
    · split
      · rfl
      · split
        · split
          · have saved := fun (change : Tournament → Tournament) (object : Nat) =>
              (persist_control (runner.edit object change) now).trans (edit_control runner object change)
            rw [editRun_point_control _ (by simp) (fun old found => live_of_control runner (saved _ _) live found)]
            exact saved _ _
          · have saved := fun (change : Tournament → Tournament) (object : Nat) =>
              (persist_control (runner.edit object change) now).trans (edit_control runner object change)
            rw [editRun_point_control _ (by simp) (fun old found => live_of_control runner (saved _ _) live found)]
            exact saved _ _
        · split
          · exact runFails_control runner _ _ now live
          · exact editRun_control runner fun old found => by simp [Run.shape, live old found]

theorem saved_control (run : Nat) : (runner.saved run).control = runner.control := by
  refine editRun_control runner fun old _ => ?_
  cases point : old.point <;> simp [Run.shape, point]

end

end Runner

structure Single (state : ControlState) : Prop where
  place : ∀ object, state.state = some object → object < state.objects
  loop : ∀ run, state.loop = some run → ∃ shape, state.runs[run]? = some shape ∧ shape.object = state.state
  ended : ∀ (run : Nat) (shape : RunShape), state.runs[run]? = some shape → shape.ended = false → state.loop = some run
  decided : ∀ shape ∈ state.runs, shape.object = some shape.decided
  saving : ∀ (call : Nat) (kind : CallKind) (ticket object : Nat), state.calls[call]? = some ⟨kind, .saving ticket object⟩ →
    state.loop = none ∧ state.state = some object ∧ ∀ (other : Nat) (called : Call), state.calls[other]? = some called →
      called.point ≠ .reading ∧ (called.point.isSaving → other = call)
  reading : ∀ call ∈ state.calls, call.point = .reading → state.loop = none ∧ state.decisions = 0
  unloaded : state.loaded = false → state.calls = [] ∧ state.loop = none ∧ state.decisions = 0
  handled : state.unhandled = false

namespace Single

variable {state : ControlState}

theorem loaded (single : Single state) (some_ : state.calls ≠ [] ∨ state.loop ≠ none) : state.loaded = true := by
  by_contra unloaded
  obtain ⟨calls, loop, -⟩ := single.unloaded (by simpa using unloaded)
  rcases some_ with call | run
  · exact call calls
  · exact run loop

theorem calls (single : Single state) (loaded : state.loaded = true) {calls : List Call}
    (others : ∀ (other : Nat) (called : Call), calls[other]? = some called →
      (called.point ≠ .reading ∧ called.point.isSaving = false) ∨ state.calls[other]? = some called) :
    Single { state with calls } where
  __ := single
  saving := fun call kind ticket object found => by
    rcases others call _ found with ⟨-, other⟩ | found
    · simp [CallPoint.isSaving] at other
    · obtain ⟨idle, own, alone⟩ := single.saving call kind ticket object found
      refine ⟨idle, own, fun third called there => ?_⟩
      rcases others third called there with ⟨reading, saving⟩ | there
      · simp [reading, saving]
      · exact alone third called there
  reading := fun called inside point => by
    obtain ⟨other, found⟩ := List.mem_iff_getElem?.mp inside
    rcases others other called found with ⟨reading, -⟩ | found
    · exact absurd point reading
    · exact single.reading called (List.mem_of_getElem? found) point
  unloaded := fun unloaded => by
    rw [show state.loaded = false from unloaded] at loaded
    simp at loaded

theorem replace (single : Single state) (idle : state.loop = none) (loaded : state.loaded = true)
    {objects decisions : Nat} {current : Option Nat} {calls : List Call}
    (place : ∀ object, current = some object → object < objects)
    (saving : ∀ (call : Nat) (kind : CallKind) (ticket object : Nat), calls[call]? = some ⟨kind, .saving ticket object⟩ →
      current = some object ∧ ∀ (other : Nat) (called : Call), calls[other]? = some called →
        called.point ≠ .reading ∧ (called.point.isSaving → other = call))
    (reading : ∀ call ∈ calls, call.point = .reading → decisions = 0) : Single { state with
      objects
      state := current
      calls
      decisions } where
  place := place
  loop := fun run running => by
    rw [show state.loop = some run from running] at idle
    simp at idle
  __ := single
  saving := fun call kind ticket object found => ⟨idle, saving call kind ticket object found⟩
  reading := fun call inside point => ⟨idle, reading call inside point⟩
  unloaded := fun unloaded => by
    rw [show state.loaded = false from unloaded] at loaded
    simp at loaded

end Single

namespace Runner

section

variable {runner : Runner}

theorem setCall_control (runner : Runner) (call : Nat) (point : CallPoint) :
    (runner.setCall call point).control = { runner.control with
      calls := runner.control.calls.modify call fun old => { old with point } } := rfl

theorem modify_others {calls : List Call} {call : Nat} {point : CallPoint} (other : Nat) (called : Call)
    (found : (calls.modify call fun old => { old with point })[other]? = some called) :
    (other = call ∧ called.point = point) ∨ (other ≠ call ∧ calls[other]? = some called) := by
  rcases modify_cases found with ⟨rfl, _, _, rfl⟩ | ⟨own, there⟩
  · exact .inl ⟨rfl, rfl⟩
  · exact .inr ⟨own.symm, there⟩

section
variable (single : Single runner.control)

include single

theorem setCall_single {call : Nat} (there : runner.calls ≠ []) {point : CallPoint}
    (reading : point ≠ .reading) (saving : point.isSaving = false) : Single (runner.setCall call point).control := by
  refine single.calls (single.loaded (.inl there)) fun other called found => ?_
  rcases modify_others other called found with ⟨-, rfl⟩ | ⟨-, found⟩
  · exact .inl ⟨reading, saving⟩
  · exact .inr found

theorem addCall_single (loaded : runner.loaded = true) (kind : CallKind) {point : CallPoint}
    (reading : point ≠ .reading) (saving : point.isSaving = false) : Single (runner.addCall kind point).control := by
  refine single.calls loaded fun other called found => ?_
  change (runner.calls ++ [⟨kind, point⟩])[other]? = some called at found
  rw [List.getElem?_append] at found
  split at found
  · exact .inr found
  · obtain rfl := List.mem_singleton.mp (List.mem_of_getElem? found)
    exact .inl ⟨reading, saving⟩

theorem begin_single (kind : CallKind) : Single (runner.begin_ kind).control := by
  have loads : Single (if runner.loaded then runner.addCall kind (.loaded runner.state)
      else { runner with loaded := true }.addCall kind .reading : Runner).control := by
    split
    · next loaded => exact addCall_single single loaded kind (by simp) rfl
    · next unloaded =>
      obtain ⟨calls, loop, decisions⟩ := single.unloaded (by simpa [control] using unloaded)
      have first : runner.calls = [] := calls
      refine {
        __ := single
        saving := fun call kind ticket object found => ?_
        reading := fun _ _ _ => ⟨loop, decisions⟩
        unloaded := fun unloaded => by simp [control, addCall] at unloaded
        handled := single.handled }
      simp only [control, addCall, first, List.nil_append] at found
      have point := List.mem_singleton.mp (List.mem_of_getElem? found)
      simp at point
  cases kind with
  | stop status =>
    simp only [begin_]
    split
    · exact single
    · next run running =>
      have loaded : runner.control.loaded = true := single.loaded (.inr (by simp [control, running]))
      have same : ∀ current : Nat, (runner.editRun current fun run => { run with aborted := true }).control = runner.control :=
        fun current => editRun_same runner fun _ => rfl
      split
      · next current _ =>
        have aborted : Single (runner.editRun current fun run => { run with aborted := true }).control := by
          rw [same current]
          exact single
        exact @addCall_single _ aborted loaded _ (.stopping run) (by simp) rfl
      · exact @addCall_single _ single loaded _ (.stopping run) (by simp) rfl
  | load => exact loads
  | start settings ids => exact loads
  | resume => exact loads
  | resumeIfInterrupted => exact loads
  | reset => exact loads

theorem read_single {call : Nat} (readable : Bool)
    (may : (runner.calls[call]?).map Call.point = some .reading) : Single (runner.read call readable).control := by
  obtain ⟨called, found, point⟩ := Option.map_eq_some_iff.mp may
  have inside := List.mem_of_getElem? found
  obtain ⟨idle, decisions⟩ := single.reading called inside point
  have loaded := single.loaded (.inl (List.ne_nil_of_mem inside))
  -- nobody decides while the file is being read
  have nobody : ∀ (other : Nat) (kind : CallKind) (ticket object : Nat),
      runner.calls[other]? ≠ some ⟨kind, .saving ticket object⟩ := by
    intro other kind ticket object there
    exact ((single.saving other kind ticket object there).2.2 call called found).1 point
  have goesOn : ∀ (objects : Nat) (state : Option Nat), (∀ object, state = some object → object < objects) →
      Single { runner.control with
        objects
        state
        calls := runner.calls.modify call fun old => { old with point := .loaded state } } := by
    intro objects state place
    refine single.replace idle loaded place (fun other kind ticket object there => ?_) fun _ _ _ => decisions
    rcases modify_others other _ there with ⟨-, other⟩ | ⟨-, there⟩
    · simp at other
    · exact absurd there (nobody other kind ticket object)
  unfold read
  split
  · have next := goesOn (runner.objects.length + 1) (some runner.objects.length) (by simp)
    simpa [control, setCall] using next
  · exact goesOn runner.objects.length none (by simp)

theorem decide_single (idle : runner.loop = none) {call : Nat} {kind : CallKind}
    {captured : Option Nat} (found : runner.calls[call]? = some ⟨kind, .loaded captured⟩)
    (alone : ∀ other ∈ runner.calls, other.point.isSaving = false ∧ other.point ≠ .reading) {objects decisions : Nat}
    {state : Option Nat} {point : CallPoint} (place : ∀ object, state = some object → object < objects)
    (reading : point ≠ .reading) (saving : ∀ ticket object, point = .saving ticket object → state = some object) :
    Single { runner.control with
      objects
      state
      decisions
      calls := runner.calls.modify call fun old => { old with point } } := by
  have loaded := single.loaded (.inl (List.ne_nil_of_mem (List.mem_of_getElem? found)))
  refine single.replace idle loaded place (fun other kind ticket object there => ?_) fun called inside read => ?_
  · rcases modify_others other _ there with ⟨rfl, own⟩ | ⟨-, there⟩
    · refine ⟨saving ticket object own.symm, fun third called later => ?_⟩
      rcases modify_others third called later with ⟨rfl, same⟩ | ⟨-, later⟩
      · exact ⟨same ▸ reading, fun _ => rfl⟩
      · obtain ⟨notSaving, notReading⟩ := alone called (List.mem_of_getElem? later)
        exact ⟨notReading, fun saves => by simp [notSaving] at saves⟩
    · have never := (alone _ (List.mem_of_getElem? there)).1
      simp [CallPoint.isSaving] at never
  · obtain ⟨other, later⟩ := List.mem_iff_getElem?.mp inside
    rcases modify_others other called later with ⟨-, same⟩ | ⟨-, later⟩
    · exact absurd (same.symm.trans read) reading
    · exact absurd read (alone called (List.mem_of_getElem? later)).2

theorem check_single {call : Nat} (now id : String) (recent : Bool)
    (may : ∃ kind state, runner.calls[call]? = some ⟨kind, .loaded state⟩) (apart_ : runner.apart (.check call now id recent)) :
    Single (runner.check call now id recent).control := by
  obtain ⟨kind, captured, found⟩ := may
  have there : runner.calls ≠ [] := List.ne_nil_of_mem (List.mem_of_getElem? found)
  have apart_ := apart_ kind captured found
  have ends : Single (runner.setCall call .done).control := setCall_single single there (by simp) rfl
  simp only [check, found]
  cases kind with
  | load => exact ends
  | stop status => exact ends
  | start settings ids =>
    simp only [startChecked]
    split
    · exact ends
    · next passed =>
      have idle : runner.loop = none := by
        by_contra running
        exact passed (.inl (Option.isSome_iff_ne_none.mpr running))
      obtain ⟨alone, -⟩ := apart_ rfl idle
      generalize new : ({ runner with
        objects := runner.objects ++ [{ state := startState settings ids id now, history := fun _ => [] }]
        state := some runner.objects.length
        decisions := runner.decisions + 1 } : Runner) = started
      have same : (started.persist now).control = { runner.control with
          objects := runner.objects.length + 1
          state := some runner.objects.length
          decisions := runner.decisions + 1 } := by
        rw [persist_control, ← new]
        simp [control]
      have saved := @decide_single runner single idle call _ _ found alone (runner.objects.length + 1)
        (runner.decisions + 1) (some runner.objects.length) (.saving (started.persist now).ticket runner.objects.length)
        (by simp) (by simp) (by simp)
      rw [setCall_control, same]
      exact saved
  | resume =>
    simp only [resumeChecked]
    split
    · exact ends
    · next object =>
      split
      · exact ends
      · next passed =>
        have idle : runner.loop = none := by
          by_contra running
          exact passed (.inl (Option.isSome_iff_ne_none.mpr running))
        obtain ⟨alone, current⟩ := apart_ rfl idle
        generalize edited : (runner.edit object fun tournament => tournament.edit fun state =>
          { state with
            status := .running
            error := none }) = resumed
        have same : (resumed.persist now).control = runner.control := by
          rw [persist_control, ← edited, edit_control]
        have saved := @decide_single runner single idle call _ _ found alone runner.objects.length runner.decisions
          runner.state (.saving (resumed.persist now).ticket object) single.place (by simp)
          (fun _ other same => by
            simp only [CallPoint.saving.injEq] at same
            rw [← current rfl, same.2])
        rw [setCall_control, same]
        exact saved
  | resumeIfInterrupted =>
    simp only
    split
    · refine single.calls (single.loaded (.inl there)) fun other called later => ?_
      rw [List.getElem?_set] at later
      split at later
      · split at later
        · simp only [Option.some.injEq] at later
          exact .inl (by simp [← later, CallPoint.isSaving])
        · simp at later
      · exact .inr later
    · exact ends
  | reset =>
    simp only
    split
    · exact ends
    · next passed =>
      have idle : runner.loop = none := by simpa using passed
      obtain ⟨alone, -⟩ := apart_ rfl idle
      exact @decide_single runner single idle call _ _ found alone runner.objects.length (runner.decisions + 1) none
        (.unlinking runner.ticket) (by simp) (by simp) (by simp)

theorem launch_single {call : Nat}
    (may : ∃ kind ticket object, runner.calls[call]? = some ⟨kind, .saving ticket object⟩ ∧ ticket ≤ runner.settled) :
    Single (runner.launch call).control := by
  obtain ⟨kind, ticket, object, found, -⟩ := may
  obtain ⟨idle, own, alone⟩ := single.saving call kind ticket object found
  have current : runner.state = some object := own
  have ended : ∀ shape ∈ runner.runs.map Run.shape, shape.ended = true := by
    intro shape inside
    obtain ⟨run, found⟩ := List.mem_iff_getElem?.mp inside
    by_contra going
    rw [single.ended run shape found (by simpa using going)] at idle
    simp at idle
  simp only [launch, found, current]
  have next : Single { runner.control with
      runs := runner.runs.map Run.shape ++ [{ object := some object, decided := object, ended := false }]
      loop := some runner.runs.length
      calls := runner.calls.modify call fun old => { old with point := .done } } := {
    place := single.place
    loop := fun run running => by
      simp only [Option.some.injEq] at running
      subst running
      refine ⟨{ object := some object, decided := object, ended := false }, ?_, own.symm⟩
      simp
    ended := fun run shape found going => by
      rw [List.getElem?_append] at found
      split at found
      · have ended := ended shape (List.mem_of_getElem? found)
        rw [ended] at going
        simp at going
      · next late =>
        simp only [List.length_map, Nat.not_lt] at late
        have first : run - runner.runs.length = 0 := by
          by_contra more
          rw [List.length_map, List.getElem?_eq_none (by simp; omega)] at found
          simp at found
        rw [Option.some.injEq]
        omega
    decided := fun shape inside => by
      rcases List.mem_append.mp inside with old | new
      · exact single.decided shape old
      · rw [List.mem_singleton.mp new]
    saving := fun other kind ticket object there => by
      rcases modify_others other _ there with ⟨-, point⟩ | ⟨apart_, there⟩
      · simp at point
      · exact absurd ((alone other _ there).2 rfl) apart_
    reading := fun called inside point => by
      obtain ⟨other, there⟩ := List.mem_iff_getElem?.mp inside
      rcases modify_others other called there with ⟨-, same⟩ | ⟨-, there⟩
      · simp [same] at point
      · exact absurd point (alone other called there).1
    unloaded := fun unloaded => by
      have loaded := single.loaded (.inl (List.ne_nil_of_mem (List.mem_of_getElem? found)))
      rw [show runner.control.loaded = false from unloaded] at loaded
      simp at loaded
    handled := single.handled }
  have handled : runner.unhandled = false := single.handled
  simpa [control, setCall, Run.shape, current, handled] using next

theorem finally_single {run : Nat}
    (may : (runner.runs[run]?).map Run.point = some .returned) : Single (runner.finally_ run).control := by
  obtain ⟨old, found, point⟩ := Option.map_eq_some_iff.mp may
  have shape : runner.control.runs[run]? = some old.shape := by simp [control, found]
  have running : runner.control.loop = some run := single.ended run old.shape shape (by simp [Run.shape, point])
  have loaded := single.loaded (.inr (by simp [running]))
  have ended : ∀ shape ∈ (runner.runs.modify run fun old => { old with point := .ended }).map Run.shape,
      shape.ended = true ∧ shape.object = some shape.decided := by
    intro shape inside
    obtain ⟨ended, there, rfl⟩ := List.mem_map.mp inside
    obtain ⟨place, there⟩ := List.mem_iff_getElem?.mp there
    rcases modify_cases there with ⟨-, first, before, rfl⟩ | ⟨own, before⟩
    · exact ⟨rfl, single.decided first.shape (List.mem_map_of_mem (List.mem_of_getElem? before))⟩
    · have shape : runner.control.runs[place]? = some ended.shape := by simp [control, before]
      refine ⟨?_, single.decided ended.shape (List.mem_of_getElem? shape)⟩
      by_contra going
      have same := single.ended place ended.shape shape (by simpa using going)
      rw [running, Option.some.injEq] at same
      exact own same
  exact {
    place := single.place
    loop := fun _ running => by simp [control, finally_] at running
    ended := fun place shape found going => by
      have ended := (ended shape (List.mem_of_getElem? found)).1
      rw [ended] at going
      simp at going
    decided := fun shape inside => (ended shape inside).2
    saving := fun call kind ticket object found => by
      have idle := (single.saving call kind ticket object found).1
      rw [running] at idle
      simp at idle
    reading := fun call inside point => by
      have idle := (single.reading call inside point).1
      rw [running] at idle
      simp at idle
    unloaded := fun unloaded => by
      rw [show runner.control.loaded = false from unloaded] at loaded
      simp at loaded
    handled := single.handled }

end

theorem empty_single (file : Option Tournament) : Single ({ file := file } : Runner).control where
  place := fun _ none_ => by simp [control] at none_
  loop := fun _ none_ => by simp [control] at none_
  ended := fun _ _ none_ => by simp [control] at none_
  decided := fun _ none_ => by simp [control] at none_
  saving := fun _ _ _ _ none_ => by simp [control] at none_
  reading := fun _ none_ => by simp [control] at none_
  unloaded := fun _ => ⟨rfl, rfl, rfl⟩
  handled := rfl

/-- While the calls are apart, no step puts two runs side by side. -/
theorem step_single (rating : ℚ → ℚ → ℚ → ℚ) (single : Single runner.control) {event : Event} (may : runner.allowed event)
    (apart_ : runner.apart event) : Single (step rating runner event).control := by
  have top : ∀ {run : Nat} {point : RunPoint}, point ≠ .ended → (runner.runs[run]?).map Run.point = some point →
      ∀ old, runner.runs[run]? = some old → old.point ≠ .ended := by
    intro run point going there old found ended
    rw [found, Option.map_some, ended, Option.some.injEq] at there
    exact going there.symm
  cases event with
  | call kind => exact begin_single single kind
  | read call readable => exact read_single single readable may
  | check call now id recent => exact check_single single now id recent may apart_
  | launch call => exact launch_single single may
  | unlinked call removed =>
    obtain ⟨kind, ticket, found, -⟩ := may
    exact @setCall_single { runner with file := if removed then none else runner.file } single call
      (List.ne_nil_of_mem (List.mem_of_getElem? found)) .done (by simp) rfl
  | stopped call now =>
    obtain ⟨kind, run, found, -⟩ := may
    have there : runner.calls ≠ [] := List.ne_nil_of_mem (List.mem_of_getElem? found)
    have ends : Single (runner.setCall call .done).control := setCall_single single there (by simp) rfl
    simp only [step, stopped]
    split
    · split
      · rw [setCall_control, persist_control, edit_control]
        exact ends
      · exact ends
    · exact ends
  | settle written =>
    simp only [step, settle]
    split <;> exact single
  | crash => exact empty_single _
  | round run now => exact round_control runner now (top (by simp) may) ▸ single
  | saved run => exact saved_control runner run ▸ single
  | pick run game now => exact pick_control runner rating run game now ▸ single
  | answer run game choice now save => exact answer_control runner rating run game choice now save ▸ single
  | abandon run game => exact abandon_control runner run game ▸ single
  | poolOver run =>
    obtain ⟨old, found, pool, -⟩ := may
    have live := @top run .pool (by simp) (show (runner.runs[run]?).map Run.point = some .pool by simp [found, pool])
    have same : (runner.editRun run fun old => { old with point := .top }).control = runner.control :=
      editRun_point_control runner (by simp) live
    exact same ▸ single
  | finally_ run => exact finally_single single may

end

end Runner

end SpaceApp.Chess
