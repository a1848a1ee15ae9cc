import SpaceApp.Chess.RunnerRuns

/-! One run at a time: while the calls are apart, every reached runner plays one state, the one its own call decided on,
and finishes and books each game once. Calls that overlap launch two runs.
-/

set_option autoImplicit false

namespace SpaceApp.Chess

open SpaceApp.Foundation

namespace Runner

section

variable {runner : Runner} {run object : Nat} {old : Run}

namespace GamesOk

section
variable (ok : GamesOk runner)

include ok

theorem setCall (call : Nat) (point : CallPoint) : GamesOk (runner.setCall call point) :=
  ok.keep rfl rfl rfl ok.file ok.objects ok.saving fun _ _ _ same => same

theorem addCall (kind : CallKind) (point : CallPoint) : GamesOk (runner.addCall kind point) :=
  ok.keep rfl rfl rfl ok.file ok.objects ok.saving fun _ _ _ same => same

theorem quiets (found : runner.runs[run]? = some old) {change : Run → Run}
    (quiet : (change old).point ≠ .pool ∧ (change old).playing = [] ∧ ((change old).queue = [] ∨ (change old).aborted = true)) :
    GamesOk (runner.editRun run change) := by
  obtain ⟨after, others⟩ := editRun_run found change
  exact {
    __ := ok
    quiet := fun one inside point => by
      obtain ⟨place, there⟩ := List.mem_iff_getElem?.mp inside
      by_cases same : place = run
      · rw [same, after, Option.some.injEq] at there
        exact there ▸ quiet.2
      · exact ok.quiet one (List.mem_of_getElem? (others place same ▸ there)) point
    pool := fun place one object there pool own => by
      by_cases same : place = run
      · rw [same, after, Option.some.injEq] at there
        exact absurd pool (there ▸ quiet.1)
      · exact ok.pool place one object (others place same ▸ there) pool own
    finished := ok.finished }

theorem aborts (run : Nat) : GamesOk (runner.editRun run fun old => { old with aborted := true }) := by
  cases found : runner.runs[run]? with
  | none =>
    have same : runner.runs.modify run (fun old => { old with aborted := true }) = runner.runs :=
      List.modify_eq_self (List.getElem?_eq_none_iff.mp found)
    have equal : runner.editRun run (fun old => { old with aborted := true }) = runner := by
      rw [editRun, same]
    rw [equal]
    exact ok
  | some old =>
    obtain ⟨after, others⟩ := editRun_run found fun old => { old with aborted := true }
    exact {
      __ := ok
      quiet := fun one inside point => by
        obtain ⟨place, there⟩ := List.mem_iff_getElem?.mp inside
        by_cases same : place = run
        · rw [same, after, Option.some.injEq] at there
          subst there
          exact ⟨(ok.quiet old (List.mem_of_getElem? found) point).1, .inr rfl⟩
        · exact ok.quiet one (List.mem_of_getElem? (others place same ▸ there)) point
      pool := fun place one object there pool own => by
        by_cases same : place = run
        · rw [same, after, Option.some.injEq] at there
          subst there
          have before := ok.pool run old object found pool own
          exact { before with }
        · exact ok.pool place one object (others place same ▸ there) pool own
      finished := ok.finished }

theorem begins_call (kind : CallKind) : GamesOk (runner.begin_ kind) := by
  have loads : GamesOk (if runner.loaded then runner.addCall kind (.loaded runner.state)
      else { runner with loaded := true }.addCall kind .reading : Runner) := by
    split
    · exact ok.addCall _ _
    · exact ok.keep rfl rfl rfl ok.file ok.objects ok.saving fun _ _ _ same => same
  cases kind with
  | stop status =>
    simp only [begin_]
    split
    · exact ok
    · split
      · exact (ok.aborts _).addCall _ _
      · exact ok.addCall _ _
  | load => exact loads
  | start settings ids => exact loads
  | resume => exact loads
  | resumeIfInterrupted => exact loads
  | reset => exact loads

theorem appends {tournament : Tournament} (known : Known tournament) (state : Option Nat) (decisions : Nat) :
    GamesOk { runner with
      objects := runner.objects ++ [tournament]
      state
      decisions } := by
  refine ok.keep rfl rfl rfl ok.file (fun one inside => ?_) ok.saving fun other place status before => ?_
  · rcases List.mem_append.mp inside with earlier | new
    · exact ok.objects one earlier
    · exact List.mem_singleton.mp new ▸ known
  · obtain ⟨game, here, same⟩ := Option.map_eq_some_iff.mp before
    obtain ⟨earlier, there, found⟩ := Option.bind_eq_some_iff.mp here
    have kept : (runner.objects ++ [tournament])[other]? = some earlier := by
      rw [List.getElem?_append_left (List.getElem?_eq_some_iff.mp there).1]
      exact there
    simp only [statusAt, gameAt, kept, Option.bind_some, found, Option.map_some, same]

theorem reads (call : Nat) (readable : Bool) : GamesOk (runner.read call readable) := by
  unfold read
  split
  · next saved found =>
    exact ((ok.appends (ok.file saved found).interrupted (some runner.objects.length) runner.decisions).setCall call _)
  · exact (ok.keep rfl rfl rfl ok.file ok.objects ok.saving fun _ _ _ same => same :
      GamesOk { runner with state := none }).setCall call _

theorem checks (call : Nat) (now id : String) (recent : Bool)
    (valid : ∀ called ∈ runner.calls, CallKind.valid called.kind) : GamesOk (runner.check call now id recent) := by
  have unchanged : ∀ (state : Option Nat) (decisions : Nat) (calls : List Call),
      GamesOk { runner with
        state
        decisions
        calls } := fun _ _ _ => ok.keep rfl rfl rfl ok.file ok.objects ok.saving fun _ _ _ same => same
  simp only [check]
  split
  · next settings ids state found =>
    simp only [startChecked]
    split
    · exact ok.setCall _ _
    · next passed =>
      obtain ⟨distinct, named⟩ := valid _ (List.mem_of_getElem? found)
      have two : 2 ≤ ids.length := by
        by_contra few
        exact passed (.inr (by omega))
      have started := ok.appends (@Known.start settings ids id now distinct named two fun _ => [])
        (some runner.objects.length) (runner.decisions + 1)
      exact (started.persist now).setCall _ _
  · simp only [resumeChecked]
    split
    · exact ok.setCall _ _
    · split
      · exact ok.setCall _ _
      · exact (GamesOk.persist (ok.editOther fun _ => ⟨by rfl, by rfl, by rfl⟩) now).setCall _ _
  · split
    · exact unchanged _ _ _
    · exact ok.setCall _ _
  · split
    · exact ok.setCall _ _
    · exact (unchanged none (runner.decisions + 1) runner.calls).setCall _ _
  · exact ok.setCall _ _

theorem launches (call : Nat) : GamesOk (runner.launch call) := by
  simp only [launch]
  split
  · next kind ticket decided found =>
    refine GamesOk.setCall ?_ _ _
    exact {
      __ := ok
      quiet := fun run inside point => by
        rcases List.mem_append.mp inside with earlier | new
        · exact ok.quiet run earlier point
        · rw [List.mem_singleton.mp new]
          split <;> exact ⟨rfl, .inl rfl⟩
      pool := fun place run object there pool own => by
        rw [List.getElem?_append] at there
        split at there
        · exact ok.pool place run object there pool own
        · rw [List.mem_singleton.mp (List.mem_of_getElem? there)] at pool
          split at pool <;> cases pool
      finished := ok.finished }
  · exact ok

theorem stops (call : Nat) (now : String) : GamesOk (runner.stopped call now) := by
  simp only [stopped]
  split
  · split
    · exact (GamesOk.persist (ok.editOther fun _ => ⟨by rfl, by rfl, by rfl⟩) now).setCall _ _
    · exact ok.setCall _ _
  · exact ok.setCall _ _

theorem settles (written : Bool) : GamesOk (runner.settle written) := by
  simp only [settle]
  split
  · exact ok
  · next first rest saving =>
    have all := ok.saving
    rw [saving] at all
    refine ok.keep rfl rfl rfl (fun one file => ?_) ok.objects (fun one inside => all one (List.mem_cons_of_mem _ inside))
      fun _ _ _ same => same
    cases written with
    | true =>
      simp only [if_true, Option.some.injEq] at file
      exact file ▸ all first (List.mem_cons_self ..)
    | false =>
      exact ok.file one file

theorem crashes : GamesOk runner.crash where
  objects := by simp [crash]
  saving := by simp [crash]
  file := ok.file
  quiet := by simp [crash]
  pool := by simp [crash]
  booked := rfl
  once := by simp [crash]
  finished := by simp [crash]

end

theorem pendingGames_mem {games : List ChessGame} {place : Nat} (inside : place ∈ pendingGames games) :
    ∃ game, games[place]? = some game ∧ game.status = .pending := by
  have listed := (List.perm_insertionSort _ _).mem_iff.mp inside
  obtain ⟨-, pending⟩ := List.mem_filter.mp listed
  exact Option.map_eq_some_iff.mp (by simpa using pending)

theorem pendingGames_nodup (games : List ChessGame) : (pendingGames games).Nodup :=
  (List.perm_insertionSort _ _).nodup_iff.mpr (List.nodup_range.filter _)

theorem pairs (ok : GamesOk runner) (object : Nat) (now : String) :
    GamesOk (runner.edit object fun tournament => tournament.edit fun state => pairNextSwissRound state now) := by
  refine ok.keep rfl rfl rfl ok.file (fun one inside => ?_) ok.saving fun other place status before => ?_
  · rcases mem_edit inside with earlier | ⟨tournament, there, rfl⟩
    · exact ok.objects _ earlier
    · exact (ok.objects tournament (List.mem_of_getElem? there)).pairNextSwissRound now
  · obtain ⟨game, here, same⟩ := Option.map_eq_some_iff.mp before
    obtain ⟨tournament, there, found⟩ := Option.bind_eq_some_iff.mp here
    rw [statusAt, gameAt, edit_object, there, Option.map_some, Option.bind_some]
    split
    · have grown : ∃ more, (pairNextSwissRound tournament.state now).games = tournament.state.games ++ more := by
        simp only [pairNextSwissRound]
        split
        · exact ⟨_, List.append_assoc ..⟩
        · exact ⟨_, rfl⟩
      obtain ⟨more, games⟩ := grown
      simp only [Tournament.edit, games]
      rw [List.getElem?_append_left (List.getElem?_eq_some_iff.mp found).1, found, Option.map_some, same]
    · rw [found, Option.map_some, same]

theorem rounds (ok : GamesOk runner) (single : Single runner.control) (found : runner.runs[run]? = some old)
    (top : old.point = .top) (now : String) : GamesOk (runner.round run now) := by
  obtain ⟨nothing, still⟩ := ok.quiet old (List.mem_of_getElem? found) (by simp [top])
  have shape : runner.control.runs[run]? = some old.shape := by simp [control, found]
  have running : runner.control.loop = some run := single.ended run old.shape shape (by simp [Run.shape, top])
  obtain ⟨other, same, state⟩ := single.loop run running
  rw [shape, Option.some.injEq] at same
  subst same
  have decided := single.decided old.shape (List.mem_of_getElem? shape)
  have current : runner.state = some old.decided := state.symm.trans decided
  have own : old.object = some old.decided := decided
  -- a run that has nothing to play is saved and leaves its point
  have leaves : ∀ (next : Runner) (point : RunPoint), GamesOk next → next.runs = runner.runs → point ≠ .pool →
      GamesOk (next.editRun run fun old => { old with point }) := by
    intro next point okNext runs apart_
    exact okNext.quiets (runs ▸ found) ⟨apart_, nothing, still⟩
  simp only [round, found, Option.bind_some, own]
  split
  · exact leaves runner _ ok rfl (by simp)
  · split
    · exact ok
    · next tournament there =>
      split
      · split
        · exact leaves _ _ ((ok.pairs old.decided now).persist now) (persist_frame now).1 (by simp)
        · exact leaves _ _ (GamesOk.persist (ok.editOther fun _ => ⟨by rfl, by rfl, by rfl⟩) now) (persist_frame now).1 (by simp)
      · simp only [current, Option.bind_some, there]
        obtain ⟨after, others⟩ := editRun_run found fun old =>
          { old with
            point := .pool
            queue := pendingGames tournament.state.games
            idle := max 1 (min tournament.state.settings.concurrency (pendingGames tournament.state.games).length) }
        refine ok.move ?_ ok.objects ok.saving rfl others after rfl own ?_ ok.booked ok.once ok.finished
        · rw [editRun_control _ fun old there => by
            rw [found, Option.some.injEq] at there
            simp [Run.shape, ← there, top]]
          exact single
        · exact {
            playing := by simp [nothing]
            once := by simp [nothing]
            queue := fun place inside => by
              obtain ⟨game, here, pending⟩ := pendingGames_mem inside
              change runner.statusAt old.decided place = _
              rw [statusAt, gameAt_object there, here, Option.map_some, pending]
            queued := pendingGames_nodup _ }

end GamesOk

def Valid (runner : Runner) : Prop := ∀ called ∈ runner.calls, CallKind.valid called.kind

section

variable (valid : runner.Valid)

include valid

theorem control_valid {next : Runner} (same : next.control = runner.control) : next.Valid := by
  have calls : next.calls = runner.calls := congrArg ControlState.calls same
  intro called inside
  exact valid called (calls ▸ inside)

theorem setCall_valid (call : Nat) (point : CallPoint) : (runner.setCall call point).Valid := by
  intro called inside
  rcases mem_modify inside with earlier | ⟨old, found, rfl⟩
  · exact valid called earlier
  · exact valid old (List.mem_of_getElem? found)

theorem addCall_valid {kind : CallKind} (may : CallKind.valid kind) (point : CallPoint) :
    (runner.addCall kind point).Valid := by
  intro called inside
  rcases List.mem_append.mp inside with earlier | new
  · exact valid called earlier
  · rw [List.mem_singleton.mp new]
    exact may

theorem begin_valid {kind : CallKind} (may : CallKind.valid kind) : (runner.begin_ kind).Valid := by
  have loads : (if runner.loaded then runner.addCall kind (.loaded runner.state)
      else { runner with loaded := true }.addCall kind .reading : Runner).Valid := by
    split
    · exact addCall_valid valid may _
    · exact @addCall_valid { runner with loaded := true } valid kind may _
  cases kind with
  | stop status =>
    simp only [begin_]
    split
    · exact valid
    · split
      · exact @addCall_valid (runner.editRun _ _) valid _ may _
      · exact addCall_valid valid may _
  | load => exact loads
  | start settings ids => exact loads
  | resume => exact loads
  | resumeIfInterrupted => exact loads
  | reset => exact loads

theorem check_valid (call : Nat) (now id : String) (recent : Bool) : (runner.check call now id recent).Valid := by
  simp only [check]
  split
  · simp only [startChecked]
    split
    · exact setCall_valid valid _ _
    · refine setCall_valid (fun called inside => ?_) _ _
      exact valid called inside
  · simp only [resumeChecked]
    split
    · exact setCall_valid valid _ _
    · split
      · exact setCall_valid valid _ _
      · exact setCall_valid (control_valid valid ((persist_control _ now).trans (edit_control _ _ _))) _ _
  · split
    · intro called inside
      rcases List.mem_or_eq_of_mem_set inside with earlier | rfl
      · exact valid called earlier
      · trivial
    · exact setCall_valid valid _ _
  · split
    · exact setCall_valid valid _ _
    · exact @setCall_valid { runner with state := none, decisions := runner.decisions + 1 } valid _ _
  · exact setCall_valid valid _ _

end

end

structure Sound (runner : Runner) : Prop where
  single : Single runner.control
  games : GamesOk runner
  valid : runner.Valid

theorem step_sound (rating : ℚ → ℚ → ℚ → ℚ) {runner : Runner} (sound : Sound runner) {event : Event}
    (may : runner.allowed event) (apart_ : runner.apart event) : Sound (step rating runner event) := by
  have single := step_single rating sound.single may apart_
  have games := sound.games
  have valid := sound.valid
  cases event with
  | call kind => exact ⟨single, games.begins_call kind, begin_valid valid may⟩
  | read call readable =>
    refine ⟨single, games.reads call readable, ?_⟩
    simp only [step, read]
    split
    · exact @setCall_valid { runner with objects := _, state := _ } valid _ _
    · exact @setCall_valid { runner with state := none } valid _ _
  | check call now id recent => exact ⟨single, games.checks call now id recent valid, check_valid valid call now id recent⟩
  | launch call =>
    refine ⟨single, games.launches call, ?_⟩
    simp only [step, launch]
    split
    · exact @setCall_valid { runner with runs := _, loop := _, controller := _, unhandled := _ } valid _ _
    · exact valid
  | unlinked call removed =>
    refine ⟨single, ?_, @setCall_valid { runner with file := _ } valid _ _⟩
    have kept : GamesOk { runner with file := if removed then none else runner.file } :=
      games.keep rfl rfl rfl (fun one file => games.file one (by
        cases removed with
        | true => simp at file
        | false => exact file)) games.objects games.saving fun _ _ _ same => same
    exact kept.setCall _ _
  | stopped call now =>
    refine ⟨single, games.stops call now, ?_⟩
    simp only [step, stopped]
    split
    · split
      · exact setCall_valid (control_valid valid ((persist_control _ now).trans (edit_control _ _ _))) _ _
      · exact setCall_valid valid _ _
    · exact setCall_valid valid _ _
  | settle written =>
    refine ⟨single, games.settles written, ?_⟩
    simp only [step, settle]
    split <;> exact valid
  | crash => exact ⟨single, games.crashes, by simp [step, crash, Valid]⟩
  | round run now =>
    obtain ⟨old, found, top⟩ := Option.map_eq_some_iff.mp may
    refine ⟨single, games.rounds sound.single found top now, control_valid valid (round_control runner now fun one there => ?_)⟩
    rw [found, Option.some.injEq] at there
    simp [← there, top]
  | saved run =>
    obtain ⟨ticket, -, at_⟩ := may
    refine ⟨single, ?_, control_valid valid (saved_control runner run)⟩
    obtain ⟨old, found, point⟩ : ∃ old, runner.runs[run]? = some old ∧
        (old.point = .saving ticket ∨ old.point = .ending ticket) := by
      rcases at_ with at_ | at_ <;> obtain ⟨old, found, point⟩ := Option.map_eq_some_iff.mp at_
      · exact ⟨old, found, .inl point⟩
      · exact ⟨old, found, .inr point⟩
    have quiet := games.quiet old (List.mem_of_getElem? found) (by rcases point with point | point <;> simp [point])
    refine games.quiets found ?_
    rcases point with point | point <;> simp only [point]
    · exact ⟨by simp, quiet⟩
    · exact ⟨by simp, quiet⟩
  | pick run game now =>
    obtain ⟨old, found, queued, -, going⟩ := may
    exact ⟨single, games.picks rating sound.single found queued going now, control_valid valid (pick_control _ _ _ _ _)⟩
  | answer run game choice now save =>
    obtain ⟨old, entry, found, playing, -⟩ := may
    exact ⟨single, games.answers rating sound.single found playing choice now save,
      control_valid valid (answer_control _ _ _ _ _ _ _)⟩
  | abandon run game =>
    obtain ⟨old, found, -, entry, inside, rfl⟩ := may
    obtain ⟨pool, object, own⟩ := games.pooled sound.single found (.inl (List.ne_nil_of_mem inside))
    refine ⟨single, ?_, control_valid valid (abandon_control _ _ _)⟩
    simp only [step, abandon, found, Option.bind_some, own]
    exact games.pauses sound.single found pool own inside
  | poolOver run =>
    obtain ⟨old, found, pool, nothing, still⟩ := may
    refine ⟨single, games.quiets found ⟨by simp, nothing, still⟩, ?_⟩
    exact valid
  | finally_ run =>
    obtain ⟨old, found, point⟩ := Option.map_eq_some_iff.mp may
    have quiet := games.quiet old (List.mem_of_getElem? found) (by simp [point])
    have ended := @GamesOk.quiets runner run old games found (fun old => { old with point := .ended }) ⟨by simp, quiet⟩
    exact ⟨single, ended.keep rfl rfl rfl ended.file ended.objects ended.saving fun _ _ _ same => same, valid⟩

/-- The runners that are reached while the calls are apart. -/
abbrev ReachedApart (rating : ℚ → ℚ → ℚ → ℚ) : Runner → Prop :=
  Reached (fun runner => runner = {}) (fun runner event => runner.allowed event ∧ runner.apart event) (step rating)

theorem ReachedApart.sound {rating : ℚ → ℚ → ℚ → ℚ} {runner : Runner} (reached : ReachedApart rating runner) :
    Sound runner := by
  have initial : ∀ runner : Runner, runner = {} → Sound runner := by
    rintro runner rfl
    exact ⟨empty_single none, ⟨by simp, by simp, by simp, by simp, by simp, rfl, by simp, by simp⟩, by simp [Valid]⟩
  exact reached.invariant initial fun runner event sound may => step_sound rating sound may.1 may.2

/-- One run at most, of the state its own call decided on, whatever is read late; each game finished and booked once at
most; and no run without a state. -/
def OneRun (runner : Runner) : Prop :=
  (∀ (left right : Nat) (one other : Run), runner.runs[left]? = some one → runner.runs[right]? = some other →
    one.point ≠ .ended → other.point ≠ .ended → left = right) ∧
  (∀ run ∈ runner.runs, run.object = some run.decided ∧ (run.point ≠ .ended → runner.state = run.object)) ∧
  ((∃ call ∈ runner.calls, call.point = .reading) → runner.decisions = 0) ∧
  runner.finished.Nodup ∧ runner.booked.Nodup ∧ runner.unhandled = false

/-- In every run whose calls are apart, one run plays at a time. -/
theorem apart_one_run (rating : ℚ → ℚ → ℚ → ℚ) {runner : Runner} (reached : ReachedApart rating runner) : OneRun runner := by
  obtain ⟨single, games, -⟩ := reached.sound
  have going : ∀ (place : Nat) (run : Run), runner.runs[place]? = some run → run.point ≠ .ended →
      runner.control.loop = some place := by
    intro place run found ended
    exact single.ended place run.shape (by simp [control, found]) (by simp [Run.shape, ended])
  refine ⟨fun left right one other foundLeft foundRight overLeft overRight => ?_, fun run inside => ?_, ?_, games.once,
    games.booked ▸ games.once, single.handled⟩
  · have same := (going left one foundLeft overLeft).symm.trans (going right other foundRight overRight)
    exact Option.some.inj same
  · refine ⟨single.decided run.shape (List.mem_map_of_mem inside), fun ended => ?_⟩
    obtain ⟨place, found⟩ := List.mem_iff_getElem?.mp inside
    obtain ⟨shape, there, state⟩ := single.loop place (going place run found ended)
    have same : shape = run.shape := by
      simp only [control, List.getElem?_map, found, Option.map_some, Option.some.injEq] at there
      exact there.symm
    exact (same ▸ state).symm
  · rintro ⟨call, inside, point⟩
    exact (single.reading call inside point).2

def twoPlayers : CallKind :=
  .start
    { format := .swiss
      rounds := 1
      moveTimeoutMs := 60000
      maxPlies := 200
      concurrency := 1 }
    ["gpt@high", "opus@low"]

/-- One start: its file is read, its state saved, its run launched. -/
def startEvents : List Event :=
  [.call twoPlayers, .read 0 true, .check 0 "now" "chess-1" true, .settle true, .launch 0]

/-- A second start passes its check while the first is saving. -/
def overlappingStarts : List Event :=
  [.call twoPlayers, .read 0 true, .check 0 "now" "chess-1" true, .call twoPlayers, .check 1 "now" "chess-2" true,
    .settle true, .settle true, .launch 0, .launch 1]

theorem apart_one_run_start : OneRun (startEvents.foldl (step fun own _ _ => own) {}) := by
  have valid : CallKind.valid twoPlayers := ⟨by decide, by decide⟩
  refine apart_one_run (fun own _ _ => own) (Reached.run (.start rfl) ?_)
  refine ⟨⟨valid, trivial⟩, ⟨rfl, trivial⟩, ⟨⟨_, _, rfl⟩, ?_⟩, ⟨trivial, trivial⟩, ⟨⟨_, _, _, rfl, by decide⟩, trivial⟩, trivial⟩
  intro kind state found _ _
  obtain ⟨rfl, rfl⟩ : kind = twoPlayers ∧ state = none := by
    have same := Option.some.inj (show some (⟨twoPlayers, .loaded none⟩ : Call) = some ⟨kind, .loaded state⟩ from found)
    simp at same
    exact ⟨same.1.symm, same.2.symm⟩
  refine ⟨fun other inside => ?_, nofun⟩
  obtain rfl := List.mem_singleton.mp (show other ∈ [(⟨twoPlayers, .loaded none⟩ : Call)] from inside)
  exact ⟨rfl, by simp⟩

/-- Two overlapping starts are two runs. -/
theorem overlapping_two_runs : ¬∀ runner, Reached (fun runner => runner = {}) allowed (step fun own _ _ => own) runner →
    OneRun runner := by
  intro always
  have valid : CallKind.valid twoPlayers := ⟨by decide, by decide⟩
  have reached : Reached (fun runner => runner = {}) allowed (step fun own _ _ => own)
      (overlappingStarts.foldl (step fun own _ _ => own) {}) := by
    refine Reached.run (.start rfl) ?_
    exact ⟨valid, rfl, ⟨_, _, rfl⟩, valid, ⟨_, _, rfl⟩, trivial, trivial, ⟨_, _, _, rfl, by decide⟩, ⟨_, _, _, rfl, by decide⟩, trivial⟩
  have same := (always _ reached).1 0 1 { object := some 1, decided := 0 } { object := some 1, decided := 1 } rfl rfl
    (by simp) (by simp)
  simp at same

end Runner

end SpaceApp.Chess
