import SpaceApp.Chess.RunnerGames

/-! The steps of the pool, and the runner over whole runs whose calls are apart from one another.
-/

set_option autoImplicit false

namespace SpaceApp.Chess

open SpaceApp.Foundation

theorem PoolOk.leaves {status next : Nat → Option ChessGameStatus} {old : Run} (ok : PoolOk status old) {entry : Playing}
    (inside : entry ∈ old.playing) (same : ∀ other, other ≠ entry.game → next other = status other) {idle : Nat} :
    PoolOk next { old with
      playing := old.playing.filter fun other => other.game ≠ entry.game
      idle } where
  playing := fun other there => by
    obtain ⟨there, apart_⟩ := List.mem_filter.mp there
    rw [same other.game (by simpa using apart_)]
    exact ok.playing other there
  once := ok.once.sublist (List.filter_sublist.map _)
  queue := fun other there => by
    have pending := ok.queue other there
    rw [same other]
    · exact pending
    · rintro rfl
      rw [ok.playing entry inside] at pending
      simp at pending
  queued := ok.queued

namespace Runner

section

variable {runner : Runner} {run object place : Nat} {old : Run}

theorem pool_own (single : Single runner.control) (found : runner.runs[run]? = some old) (pool : old.point = .pool)
    (own : old.object = some object) :
    runner.loop = some run ∧ runner.state = some object ∧ ∃ tournament, runner.objects[object]? = some tournament := by
  have shape : runner.control.runs[run]? = some old.shape := by simp [control, found]
  have running : runner.control.loop = some run := single.ended run old.shape shape (by simp [Run.shape, pool])
  obtain ⟨other, same, state⟩ := single.loop run running
  rw [shape, Option.some.injEq] at same
  subst same
  have current : runner.state = some object := state.symm.trans own
  have bound : object < runner.objects.length := single.place object current
  exact ⟨running, current, _, List.getElem?_eq_getElem bound⟩

theorem editRun_run (found : runner.runs[run]? = some old) (change : Run → Run) :
    (runner.editRun run change).runs[run]? = some (change old) ∧
      ∀ other, other ≠ run → (runner.editRun run change).runs[other]? = runner.runs[other]? := by
  refine ⟨by simp [editRun, found], fun other apart_ => ?_⟩
  rw [editRun, List.getElem?_modify]
  cases runner.runs[other]? <;> simp [Ne.symm apart_]

theorem free_run (found : runner.runs[run]? = some old) (game : Nat) :
    ((runner.leave run game).free run).runs[run]? = some { old with
      playing := old.playing.filter fun other => other.game ≠ game
      idle := old.idle + 1 } ∧
    ∀ other, other ≠ run → ((runner.leave run game).free run).runs[other]? = runner.runs[other]? := by
  obtain ⟨left, leftOthers⟩ := editRun_run found fun old =>
    { old with playing := old.playing.filter fun other => other.game ≠ game }
  obtain ⟨freed, freedOthers⟩ := editRun_run left fun old => { old with idle := old.idle + 1 }
  exact ⟨freed, fun other apart_ => (freedOthers other apart_).trans (leftOthers other apart_)⟩

namespace GamesOk

theorem move {next : Runner} {after : Run} (ok : GamesOk runner) (single : Single next.control)
    (objects : ∀ tournament ∈ next.objects, Known tournament) (saving : ∀ tournament ∈ next.saving, Known tournament)
    (file : next.file = runner.file) (others : ∀ other, other ≠ run → next.runs[other]? = runner.runs[other]?)
    (found : next.runs[run]? = some after) (pool : after.point = .pool) (own : after.object = some object)
    (poolOk : PoolOk (next.statusAt object) after) (booked : next.booked = next.finished) (once : next.finished.Nodup)
    (finished : ∀ entry ∈ next.finished, next.statusAt entry.1 entry.2 = some .finished) : GamesOk next where
  objects := objects
  saving := saving
  file := file ▸ ok.file
  quiet := fun one inside quiet => by
    obtain ⟨other, there⟩ := List.mem_iff_getElem?.mp inside
    by_cases same : other = run
    · rw [same, found, Option.some.injEq] at there
      exact absurd (there ▸ pool) quiet
    · exact ok.quiet one (List.mem_of_getElem? (others other same ▸ there)) quiet
  pool := fun other one mine there playing plays => by
    have running := (pool_own single found pool own).1
    rw [(pool_own single there playing plays).1, Option.some.injEq] at running
    subst running
    rw [found, Option.some.injEq] at there
    subst there
    rw [own, Option.some.injEq] at plays
    exact plays ▸ poolOk
  booked := booked
  once := once
  finished := finished

end GamesOk

theorem statusAt_editGame {change : ChessGame → ChessGame} {history : Tournament → Nat → List Choice} (other game : Nat)
    (apart_ : ¬(other = object ∧ game = place)) :
    (runner.edit object fun tournament => { tournament.editGame place change with history := history tournament }).statusAt
      other game = runner.statusAt other game := by
  rw [statusAt, statusAt, gameAt_editGame]
  simp [apart_]

theorem statusAt_editSame {change : ChessGame → ChessGame} (same : ∀ game, (change game).status = game.status)
    {history : Tournament → Nat → List Choice} (other game : Nat) :
    (runner.edit object fun tournament => { tournament.editGame place change with history := history tournament }).statusAt
      other game = runner.statusAt other game := by
  rw [statusAt, statusAt, gameAt_editGame, Option.map_map]
  congr 1
  funext old
  split
  · exact same old
  · rfl

theorem gameAt_object {tournament : Tournament} (there : runner.objects[object]? = some tournament) :
    runner.gameAt object place = tournament.state.games[place]? := by simp [gameAt, there]

/-- The game has ended and is booked, and nothing is saved yet. -/
def bookedEnd (runner : Runner) (object place : Nat) (standings : List ChessStanding) (result : ChessResult)
    (reason : ChessGameEndReason) (now : String) : Runner :=
  { (runner.edit object fun tournament => tournament.editGame place fun game => endGame game result reason now).edit object
      fun tournament => tournament.edit fun state => { state with standings } with
    finished := runner.finished ++ [(object, place)]
    booked := runner.booked ++ [(object, place)] }

/-- With the runner's own state, and players who have standings, a game that ends is booked. -/
theorem finishGame_eq (rating : ℚ → ℚ → ℚ → ℚ) (current : runner.state = some object) {tournament : Tournament}
    (there : runner.objects[object]? = some tournament) (known : Known tournament) {game : ChessGame} {black : String}
    (white : game.white ∈ tournament.state.contestants) (plays : game.black = some black)
    (against : black ∈ tournament.state.contestants) (result : ChessResult) (reason : ChessGameEndReason)
    (forfeitedBy : Option ChessColor) (now : String) :
    ∃ standings, bookResult rating tournament.state.standings game.white black result (game.stats.getD emptySideStats)
        forfeitedBy = some standings ∧
      runner.finishGame rating run object place game result reason forfeitedBy now =
        (((runner.bookedEnd object place standings result reason now).persist now).leave run place).free run := by
  obtain ⟨first, foundFirst⟩ := known.standing white
  obtain ⟨second, foundSecond⟩ := known.standing against
  obtain ⟨standings, booked⟩ : ∃ standings, bookResult rating tournament.state.standings game.white black result
      (game.stats.getD emptySideStats) forfeitedBy = some standings := by
    simp only [bookResult, foundFirst, foundSecond]
    exact ⟨_, rfl⟩
  refine ⟨standings, booked, ?_⟩
  have ended : (runner.edit object fun tournament => tournament.editGame place fun game =>
      endGame game result reason now).objects[object]? =
        some (tournament.editGame place fun game => endGame game result reason now) := by
    rw [edit_object, there]
    simp
  have same : (tournament.editGame place fun game => endGame game result reason now).state.standings =
      tournament.state.standings := rfl
  simp only [finishGame, current, ended, plays, Option.getD_some, same, booked]
  rfl

theorem bookResult_names {rating : ℚ → ℚ → ℚ → ℚ} {standings after : List ChessStanding} {white black : String}
    {result : ChessResult} {stats : BySide SideStats} {forfeitedBy : Option ChessColor}
    (booked : bookResult rating standings white black result stats forfeitedBy = some after) :
    after.map ChessStanding.id = standings.map ChessStanding.id := by
  have firsts := congrArg (List.map Prod.fst) (bookResult_tally booked).2
  simpa [List.map_map, Function.comp_def] using firsts

section
variable (rating : ℚ → ℚ → ℚ → ℚ) (ok : GamesOk runner) (single : Single runner.control)
  (found : runner.runs[run]? = some old) (pool : old.point = .pool) (own : old.object = some object) {entry : Playing}
  (inside : entry ∈ old.playing)

include ok single found pool own inside

theorem GamesOk.leaves {next : Runner} (control : next.control = runner.control)
    (runs : next.runs = ((runner.leave run entry.game).free run).runs) (file : next.file = runner.file)
    (objects : ∀ tournament ∈ next.objects, Known tournament) (saving : ∀ tournament ∈ next.saving, Known tournament)
    (others : ∀ object' place', ¬(object' = object ∧ place' = entry.game) →
      next.statusAt object' place' = runner.statusAt object' place')
    (booked : next.booked = next.finished)
    (logged : next.finished = runner.finished ∨
      (next.finished = runner.finished ++ [(object, entry.game)] ∧ next.statusAt object entry.game = some .finished)) :
    GamesOk next := by
  have before := ok.pool run old object found pool own
  have running := before.playing entry inside
  obtain ⟨freed, freedOthers⟩ := free_run found entry.game
  have unfinished : (object, entry.game) ∉ runner.finished := by
    intro logged
    have ended := ok.finished _ logged
    rw [running] at ended
    simp at ended
  have kept : ∀ logged ∈ runner.finished, next.statusAt logged.1 logged.2 = some .finished := by
    intro logged there
    rw [others]
    · exact ok.finished logged there
    · rintro ⟨one, two⟩
      exact unfinished (by rw [← one, ← two]; exact there)
  rw [← runs] at freed
  refine ok.move (control ▸ single) objects saving file (fun other apart_ => ?_) freed pool own
    (before.leaves inside fun other apart_ => others object other fun same => apart_ same.2) booked ?_ ?_
  · rw [runs]
    exact freedOthers other apart_
  · rcases logged with same | ⟨more, -⟩
    · rw [same]
      exact ok.once
    · rw [more]
      exact List.nodup_append.mpr ⟨ok.once, by simp, fun one there other new => by
        rw [List.mem_singleton.mp new]
        rintro rfl
        exact unfinished there⟩
  · rcases logged with same | ⟨more, ended⟩
    · rw [same]
      exact kept
    · rw [more]
      intro logged there
      rcases List.mem_append.mp there with earlier | new
      · exact kept logged earlier
      · rw [List.mem_singleton.mp new]
        exact ended

theorem GamesOk.pauses : GamesOk (((runner.leave run entry.game).edit object fun tournament =>
      tournament.editGame entry.game pauseGame).free run) := by
  have running := (ok.pool run old object found pool own).playing entry inside
  refine ok.leaves single found pool own inside (by simp) rfl rfl (fun tournament there => ?_) ok.saving
    (fun other game apart_ => ?_) ok.booked (.inl rfl)
  · rcases mem_edit there with same | ⟨before, same, rfl⟩
    · exact ok.objects _ same
    · have same : runner.objects[object]? = some before := same
      refine (ok.objects before (List.mem_of_getElem? same)).editGame fun game here => ?_
      rw [statusAt, gameAt_object same, here, Option.map_some, Option.some.injEq] at running
      exact ⟨rfl, rfl, fun ended => by simp [running] at ended⟩
  · exact @statusAt_editGame runner object entry.game pauseGame Tournament.history other game apart_

variable {game : ChessGame} (here : runner.gameAt object entry.game = some game)

include here

theorem GamesOk.finishes (result : ChessResult) (reason : ChessGameEndReason) (forfeitedBy : Option ChessColor)
    (now : String) : GamesOk (runner.finishGame rating run object entry.game game result reason forfeitedBy now) := by
  obtain ⟨-, current, tournament, there⟩ := pool_own single found pool own
  have running := (ok.pool run old object found pool own).playing entry inside
  have known := ok.objects tournament (List.mem_of_getElem? there)
  have listed : game ∈ tournament.state.games := List.mem_of_getElem? (gameAt_object there ▸ here)
  obtain ⟨black, plays⟩ : ∃ black, game.black = some black := by
    rw [← Option.isSome_iff_exists, Option.isSome_iff_ne_none]
    intro bye
    rw [statusAt, here, Option.map_some, known.bye game listed bye] at running
    simp at running
  obtain ⟨standings, booked, equal⟩ := @finishGame_eq runner run object entry.game rating current tournament there known game
    black (known.white game listed) plays (known.black game listed black plays) result reason forfeitedBy now
  have names := bookResult_names booked
  generalize ending : runner.bookedEnd object entry.game standings result reason now = ended at equal
  have objects : ∀ one ∈ ended.objects, Known one := by
    intro one inside
    rw [← ending] at inside
    rcases mem_edit inside with earlier | ⟨before, found, rfl⟩
    · rcases mem_edit earlier with same | ⟨before, found, rfl⟩
      · exact ok.objects _ same
      · exact (ok.objects before (List.mem_of_getElem? found)).editGame fun _ _ => ⟨by rfl, by rfl, fun _ => by rfl⟩
    · rw [edit_object, there, Option.map_some, if_pos rfl, Option.some.injEq] at found
      subst found
      exact (@Known.editGame tournament known entry.game (fun game => endGame game result reason now)
        (fun _ _ => ⟨rfl, rfl, fun _ => rfl⟩) tournament.history).other (by exact names) (by rfl) (by rfl)
  have saving : ∀ one ∈ ended.saving, Known one := by
    rw [← ending]
    exact ok.saving
  obtain ⟨runs, file, bookedSame, finishedSame⟩ := @persist_frame ended now
  obtain ⟨objects, saving⟩ := persist_known now objects saving
  have statuses : ∀ other place, (ended.persist now).statusAt other place =
      if other = object ∧ place = entry.game then some .finished else runner.statusAt other place := by
    intro other place
    have ends : ended.gameAt other place = (runner.gameAt other place).map fun old =>
        if other = object ∧ place = entry.game then endGame old result reason now else old := by
      rw [← ending]
      exact (gameAt_edit (fun _ => by rfl) other place).trans
        (@gameAt_editGame runner object entry.game (fun game => endGame game result reason now) Tournament.history other place)
    rw [statusAt, gameAt_persist, ends]
    by_cases same : other = object ∧ place = entry.game
    · obtain ⟨rfl, rfl⟩ := same
      simp [here, endGame]
    · simp [same, statusAt]
  have control : ended.control = runner.control := by
    rw [← ending]
    exact (edit_control _ _ _).trans (edit_control _ _ _)
  have logs : ended.runs = runner.runs ∧ ended.file = runner.file ∧ ended.finished = runner.finished ++ [(object, entry.game)] ∧
      ended.booked = runner.booked ++ [(object, entry.game)] := by
    rw [← ending]
    exact ⟨rfl, rfl, rfl, rfl⟩
  obtain ⟨sameRuns, sameFile, finished, bookedLog⟩ := logs
  rw [equal]
  refine ok.leaves single found pool own inside (by simp [control]) ?_ (file.trans sameFile) objects saving ?_ ?_ (.inr ⟨?_, ?_⟩)
  · simp only [free, leave, editRun, runs, sameRuns]
  · intro other place apart_
    exact (statuses other place).trans (if_neg apart_)
  · change (ended.persist now).booked = (ended.persist now).finished
    rw [bookedSame, finishedSame, finished, bookedLog, ok.booked]
  · change (ended.persist now).finished = _
    rw [finishedSame, finished]
  · exact (statuses object entry.game).trans (if_pos ⟨rfl, rfl⟩)

theorem GamesOk.turns (now : String) : GamesOk (runner.turn rating run object entry.game game entry now) := by
  obtain ⟨-, current, -⟩ := pool_own single found pool own
  simp only [turn]
  split
  · next aborted =>
    simp only [gameThrows, if_pos aborted]
    exact ok.pauses single found pool own inside
  · split
    · exact ok.finishes rating single found pool own inside here _ _ _ now
    · rw [current]
      refine ok.keep rfl rfl rfl ok.file (fun one there => ?_) ok.saving fun other place status before => ?_
      · rcases mem_edit there with same | ⟨before, same, rfl⟩
        · exact ok.objects _ same
        · exact (ok.objects before (List.mem_of_getElem? same)).editGame fun _ _ => ⟨by rfl, by rfl, fun ended => by exact ended⟩
      · exact (@statusAt_editSame runner object entry.game _ (fun _ => by rfl) Tournament.history other place).trans before

end

theorem GamesOk.pooled (ok : GamesOk runner) (single : Single runner.control) (found : runner.runs[run]? = some old)
    (busy : old.playing ≠ [] ∨ (old.queue ≠ [] ∧ old.aborted = false)) :
    old.point = .pool ∧ ∃ object, old.object = some object := by
  have inside := List.mem_of_getElem? found
  refine ⟨?_, old.decided, single.decided old.shape (List.mem_map_of_mem inside)⟩
  by_contra other
  obtain ⟨nothing, still⟩ := ok.quiet old inside other
  rcases busy with some_ | ⟨some_, going⟩
  · exact some_ nothing
  · rcases still with none_ | stopped
    · exact some_ none_
    · simp [stopped] at going

theorem GamesOk.player (ok : GamesOk runner) {tournament : Tournament} (there : runner.objects[object]? = some tournament)
    {game : ChessGame} (here : runner.gameAt object place = some game) (open_ : game.status ≠ .finished) :
    ∃ black, game.black = some black ∧ game.white ∈ tournament.state.contestants ∧ black ∈ tournament.state.contestants := by
  have known := ok.objects tournament (List.mem_of_getElem? there)
  have listed : game ∈ tournament.state.games := List.mem_of_getElem? (gameAt_object there ▸ here)
  cases plays : game.black with
  | none => exact absurd (known.bye game listed plays) open_
  | some black => exact ⟨black, rfl, known.white game listed, known.black game listed black plays⟩

def entryOf (game : ChessGame) (place maxPlies : Nat) : Playing :=
  { game := place, maxPlies, live := (resumedLive game).getD startLive }

def begun (runner : Runner) (run object place : Nat) (game : ChessGame) (entry : Playing) (now : String) : Runner :=
  ((runner.editRun run fun old =>
    { old with
      queue := old.queue.erase place
      idle := old.idle - 1 }).edit object fun tournament =>
    { tournament.editGame place fun game => beginGame game now with
      history := if (resumedLive game).isSome then tournament.history
        else Function.update tournament.history place [] }).editRun run fun old =>
    { old with playing := old.playing ++ [entry] }

theorem pick_eq (rating : ℚ → ℚ → ℚ → ℚ) (ok : GamesOk runner) (found : runner.runs[run]? = some old)
    (own : old.object = some object) (current : runner.state = some object) {tournament : Tournament}
    (there : runner.objects[object]? = some tournament) {game : ChessGame} (here : runner.gameAt object place = some game)
    (open_ : game.status ≠ .finished) (now : String) :
    runner.pick rating run place now =
      (runner.begun run object place game (entryOf game place tournament.state.settings.maxPlies) now).turn rating run object
        place (beginGame game now) (entryOf game place tournament.state.settings.maxPlies) now := by
  obtain ⟨black, plays, white, against⟩ := ok.player there here open_
  have players : game.white ∈ tournament.state.contestants ∧ game.black.getD "" ∈ tournament.state.contestants :=
    ⟨white, by
      rw [plays]
      exact against⟩
  simp only [pick, found, Option.bind_some, own, here, current, there, if_pos players]
  rfl

theorem begun_run (found : runner.runs[run]? = some old) (game : ChessGame) (entry : Playing) (now : String) :
    (runner.begun run object place game entry now).runs[run]? = some { old with
      queue := old.queue.erase place
      idle := old.idle - 1
      playing := old.playing ++ [entry] } ∧
    ∀ other, other ≠ run → (runner.begun run object place game entry now).runs[other]? = runner.runs[other]? := by
  obtain ⟨taken, takenOthers⟩ := editRun_run found fun old =>
    { old with
      queue := old.queue.erase place
      idle := old.idle - 1 }
  obtain ⟨last, lastOthers⟩ := @editRun_run ((runner.editRun run fun old =>
    { old with
      queue := old.queue.erase place
      idle := old.idle - 1 }).edit object fun tournament =>
    { tournament.editGame place fun game => beginGame game now with
      history := if (resumedLive game).isSome then tournament.history
        else Function.update tournament.history place [] }) run _ taken fun old => { old with playing := old.playing ++ [entry] }
  exact ⟨last, fun other apart_ => (lastOthers other apart_).trans (takenOthers other apart_)⟩

theorem begun_gameAt (game : ChessGame) (entry : Playing) (now : String) (other one : Nat) :
    (runner.begun run object place game entry now).gameAt other one = (runner.gameAt other one).map fun old =>
      if other = object ∧ one = place then beginGame old now else old :=
  @gameAt_editGame runner object place (fun game => beginGame game now)
    (fun tournament => if (resumedLive game).isSome then tournament.history else Function.update tournament.history place [])
    other one

theorem begun_control (game : ChessGame) (entry : Playing) (now : String) :
    (runner.begun run object place game entry now).control = runner.control := by
  rw [begun, editRun_same, edit_control, editRun_same]
  · exact fun _ => rfl
  · exact fun _ => rfl

theorem GamesOk.begins (ok : GamesOk runner) (single : Single runner.control) (found : runner.runs[run]? = some old)
    (pool : old.point = .pool) (own : old.object = some object) (queued : place ∈ old.queue) {game : ChessGame}
    (here : runner.gameAt object place = some game) (entry : Playing) (itself : entry.game = place) (now : String) :
    GamesOk (runner.begun run object place game entry now) := by
  have before := ok.pool run old object found pool own
  have pending := before.queue place queued
  obtain ⟨last, others⟩ := @begun_run runner run object place old found game entry now
  have statuses : ∀ other one, (runner.begun run object place game entry now).statusAt other one =
      if other = object ∧ one = place then some .running else runner.statusAt other one := by
    intro other one
    rw [statusAt, begun_gameAt]
    by_cases same : other = object ∧ one = place
    · obtain ⟨rfl, rfl⟩ := same
      simp [here, beginGame]
    · simp [same, statusAt]
  have apart_ : ∀ one, runner.statusAt object one ≠ some .pending → one ≠ place := by
    rintro one other rfl
    exact other pending
  have same : Single (runner.begun run object place game entry now).control := by
    rw [begun_control]
    exact single
  refine ok.move same (fun tournament inside => ?_) ok.saving rfl others last pool own ?_
    ok.booked ok.once fun logged inside => ?_
  · rcases mem_edit inside with same | ⟨tournament, there, rfl⟩
    · exact ok.objects _ same
    · have there : runner.objects[object]? = some tournament := there
      refine (ok.objects tournament (List.mem_of_getElem? there)).editGame fun old same => ?_
      have equal : old = game := by
        rw [gameAt_object there, same] at here
        exact Option.some.inj here
      subst equal
      rw [statusAt, here, Option.map_some, Option.some.injEq] at pending
      refine ⟨?_, ?_, fun ended => by simp [pending] at ended⟩
      · simp only [beginGame]
        split <;> rfl
      · simp only [beginGame]
        split <;> rfl
  · exact {
      playing := fun one inside => by
        rw [statuses]
        rcases List.mem_append.mp inside with earlier | new
        · have running := before.playing one earlier
          rw [if_neg fun same => apart_ one.game (by simp [running]) same.2]
          exact running
        · rw [List.mem_singleton.mp new, itself, if_pos ⟨rfl, rfl⟩]
      once := by
        rw [List.map_append, List.nodup_append]
        refine ⟨before.once, by simp, fun one inside other new => ?_⟩
        obtain ⟨playing, there, rfl⟩ := List.mem_map.mp inside
        simp only [List.map_cons, List.map_nil, List.mem_singleton] at new
        rw [new, itself]
        exact apart_ playing.game (by simp [before.playing playing there])
      queue := fun one inside => by
        have others := (List.Nodup.mem_erase_iff before.queued).mp inside
        rw [statuses, if_neg fun same => others.1 same.2]
        exact before.queue one others.2
      queued := before.queued.erase place }
  · have ended := ok.finished logged inside
    rw [statuses]
    split
    · next same =>
      rw [same.1, same.2, pending] at ended
      simp at ended
    · exact ended

theorem GamesOk.picks (rating : ℚ → ℚ → ℚ → ℚ) (ok : GamesOk runner) (single : Single runner.control)
    (found : runner.runs[run]? = some old) (queued : place ∈ old.queue) (going : old.aborted = false) (now : String) :
    GamesOk (runner.pick rating run place now) := by
  obtain ⟨pool, object, own⟩ := ok.pooled single found (.inr ⟨List.ne_nil_of_mem queued, going⟩)
  obtain ⟨-, current, tournament, there⟩ := pool_own single found pool own
  have pending := (ok.pool run old object found pool own).queue place queued
  obtain ⟨game, here, status⟩ := Option.map_eq_some_iff.mp (show (runner.gameAt object place).map _ = _ from pending)
  rw [pick_eq rating ok found own current there here (by simp [status])]
  generalize taking : entryOf game place tournament.state.settings.maxPlies = entry
  have itself : entry.game = place := by rw [← taking, entryOf]
  have begins := ok.begins single found pool own queued here entry itself now
  obtain ⟨last, -⟩ := @begun_run runner run object place old found game entry now
  rw [← itself] at begins last ⊢
  refine begins.turns rating ?_ last pool own (by simp) ?_ now
  · rw [begun_control]
    exact single
  · rw [begun_gameAt, itself, here]
    simp

def notedGame (game : ChessGame) (entry : Playing) (choice : Choice) : ChessGame :=
  { noteChoice game entry.live.position.turn choice with queued := false }

def kept (runner : Runner) (object place : Nat) (game : ChessGame) (choice : Choice) : Runner :=
  runner.edit object fun tournament =>
    { tournament.editGame place fun _ => game with
      history := Function.update tournament.history place (tournament.history place ++ [choice]) }

def movedEntry (entry : Playing) (choice : Choice) : Playing := { entry with live := entry.live.after choice.move }

def pushed (runner : Runner) (run object place : Nat) (moved : ChessGame) (next : Playing) (choice : Choice) (now : String)
    (save : Bool) : Runner :=
  let pushed := ((runner.kept object place moved choice).touch now).editRun run fun old =>
    { old with playing := old.playing.map fun other => if other.game = place then next else other }
  if save then pushed.persist now else pushed

theorem answer_eq (rating : ℚ → ℚ → ℚ → ℚ) (found : runner.runs[run]? = some old) (own : old.object = some object)
    {entry : Playing} (playing : (old.playing.find? fun entry => entry.game = place) = some entry) {game : ChessGame}
    (here : runner.gameAt object place = some game) (choice : Choice) (now : String) (save : Bool) :
    runner.answer rating run place choice now save =
      if forfeits game entry.live.position.turn choice then
        (runner.kept object place (notedGame game entry choice) choice).finishGame rating run object place
          (notedGame game entry choice) (forfeitResult entry.live.position.turn) .forfeit (some entry.live.position.turn) now
      else
        (runner.pushed run object place (pushMove (notedGame game entry choice) entry.live choice.move)
          (movedEntry entry choice) choice now save).turn rating run object place
            (pushMove (notedGame game entry choice) entry.live choice.move) (movedEntry entry choice) now := by
  simp only [answer, found, own, playing, here]
  rfl

theorem notedGame_frame (game : ChessGame) (entry : Playing) (choice : Choice) :
    (notedGame game entry choice).status = game.status ∧ (notedGame game entry choice).white = game.white ∧
      (notedGame game entry choice).black = game.black := by
  simp only [notedGame, noteChoice]
  split <;> exact ⟨rfl, rfl, rfl⟩

theorem kept_gameAt (game : ChessGame) (choice : Choice) (other one : Nat) :
    (runner.kept object place game choice).gameAt other one =
      (runner.gameAt other one).map fun old => if other = object ∧ one = place then game else old :=
  @gameAt_editGame runner object place (fun _ => game)
    (fun tournament => Function.update tournament.history place (tournament.history place ++ [choice])) other one

theorem GamesOk.keeps (ok : GamesOk runner) {game after : ChessGame} (here : runner.gameAt object place = some game)
    (same : after.status = game.status ∧ after.white = game.white ∧ after.black = game.black) (choice : Choice) :
    GamesOk (runner.kept object place after choice) := by
  refine ok.keep rfl rfl rfl ok.file (fun tournament inside => ?_) ok.saving fun other one status before => ?_
  · rcases mem_edit inside with earlier | ⟨tournament, there, rfl⟩
    · exact ok.objects _ earlier
    · refine (ok.objects tournament (List.mem_of_getElem? there)).editGame fun old found => ?_
      have equal : old = game := by
        rw [gameAt_object there, found] at here
        exact Option.some.inj here
      subst equal
      exact ⟨same.2.1, same.2.2, fun ended => same.1.trans ended⟩
  · rw [statusAt, kept_gameAt]
    by_cases own : other = object ∧ one = place
    · obtain ⟨rfl, rfl⟩ := own
      rw [statusAt, here] at before
      rw [here, ← before]
      simp [same.1]
    · simp only [own, if_false]
      simpa [statusAt] using before

theorem pushed_frame (moved : ChessGame) (next : Playing) (choice : Choice) (now : String) (save : Bool) :
    (runner.pushed run object place moved next choice now save).control = runner.control ∧
      (∀ other one, (runner.pushed run object place moved next choice now save).gameAt other one =
        (runner.gameAt other one).map fun old => if other = object ∧ one = place then moved else old) ∧
      (runner.pushed run object place moved next choice now save).runs = runner.runs.modify run fun old =>
        { old with playing := old.playing.map fun other => if other.game = place then next else other } := by
  have inner : ∀ other one, (((runner.kept object place moved choice).touch now).editRun run fun old =>
      { old with playing := old.playing.map fun other => if other.game = place then next else other }).gameAt other one =
        (runner.gameAt other one).map fun old => if other = object ∧ one = place then moved else old := fun other one =>
    (gameAt_touch now other one).trans (kept_gameAt moved choice other one)
  have control : (((runner.kept object place moved choice).touch now).editRun run fun old =>
      { old with playing := old.playing.map fun other => if other.game = place then next else other }).control =
        runner.control := by
    rw [editRun_same, touch_control, kept, edit_control]
    exact fun _ => rfl
  have runs : ((runner.kept object place moved choice).touch now).runs = runner.runs := (touch_frame now).1
  simp only [pushed]
  split
  · refine ⟨(persist_control _ now).trans control, fun other one => (gameAt_persist now other one).trans (inner other one), ?_⟩
    rw [(persist_frame now).1, editRun, runs]
  · refine ⟨control, inner, ?_⟩
    rw [editRun, runs]

theorem GamesOk.pushes (ok : GamesOk runner) (single : Single runner.control) (found : runner.runs[run]? = some old)
    (pool : old.point = .pool) (own : old.object = some object) {game moved : ChessGame}
    (here : runner.gameAt object place = some game)
    (same : moved.status = game.status ∧ moved.white = game.white ∧ moved.black = game.black) {next : Playing}
    (itself : next.game = place) (choice : Choice) (now : String) (save : Bool) :
    GamesOk (runner.pushed run object place moved next choice now save) := by
  have keeps := ok.keeps here same choice
  have games : ∀ entry : Playing, (if entry.game = place then next else entry).game = entry.game := by
    intro entry
    split
    · next own => rw [itself, own]
    · rfl
  have touched : GamesOk ((runner.kept object place moved choice).touch now) := by
    obtain ⟨runs, file, saving, booked, finished⟩ := @touch_frame (runner.kept object place moved choice) now
    refine keeps.keep runs booked finished (file ▸ keeps.file) (touch_known now keeps.objects) (saving ▸ keeps.saving)
      fun other one status before => ?_
    rw [statusAt, gameAt_touch]
    exact before
  have touchedRun : ((runner.kept object place moved choice).touch now).runs[run]? = some old := by
    rw [(touch_frame now).1]
    exact found
  obtain ⟨after, others⟩ := editRun_run touchedRun fun old =>
    { old with playing := old.playing.map fun other => if other.game = place then next else other }
  have before := touched.pool run old object touchedRun pool own
  have moves : GamesOk (((runner.kept object place moved choice).touch now).editRun run fun old =>
      { old with playing := old.playing.map fun other => if other.game = place then next else other }) := by
    refine touched.move ?_ touched.objects touched.saving rfl others after pool own ?_ touched.booked touched.once touched.finished
    · rw [editRun_same, touch_control, kept, edit_control]
      · exact single
      · exact fun _ => rfl
    · exact {
        playing := fun entry inside => by
          obtain ⟨earlier, there, rfl⟩ := List.mem_map.mp inside
          rw [games]
          exact before.playing earlier there
        once := by
          simp only [List.map_map, Function.comp_def, games]
          exact before.once
        queue := before.queue
        queued := before.queued }
  simp only [pushed]
  split
  · exact moves.persist now
  · exact moves

theorem GamesOk.answers (rating : ℚ → ℚ → ℚ → ℚ) (ok : GamesOk runner) (single : Single runner.control)
    (found : runner.runs[run]? = some old) {entry : Playing}
    (playing : (old.playing.find? fun entry => entry.game = place) = some entry) (choice : Choice) (now : String) (save : Bool) :
    GamesOk (runner.answer rating run place choice now save) := by
  have inside := List.mem_of_find?_eq_some playing
  have itself : entry.game = place := by simpa using List.find?_some playing
  obtain ⟨pool, object, own⟩ := ok.pooled single found (.inl (List.ne_nil_of_mem inside))
  have running := (ok.pool run old object found pool own).playing entry inside
  rw [itself] at running
  obtain ⟨game, here, status⟩ := Option.map_eq_some_iff.mp (show (runner.gameAt object place).map _ = _ from running)
  have same := notedGame_frame game entry choice
  rw [answer_eq rating found own playing here choice now save]
  subst itself
  split
  · have keeps := ok.keeps here same choice
    refine keeps.finishes rating ?_ found pool own inside ?_ _ _ _ now
    · rw [kept, edit_control]
      exact single
    · rw [kept_gameAt, here]
      simp
  · obtain ⟨control, gameAt, runs⟩ := @pushed_frame runner run object entry.game
      (pushMove (notedGame game entry choice) entry.live choice.move) (movedEntry entry choice) choice now save
    have pushes := @GamesOk.pushes runner run object entry.game old ok single found pool own game
      (pushMove (notedGame game entry choice) entry.live choice.move) here same (movedEntry entry choice) rfl choice now save
    have next : (movedEntry entry choice).game = entry.game := rfl
    have after : (runner.pushed run object entry.game (pushMove (notedGame game entry choice) entry.live choice.move)
        (movedEntry entry choice) choice now save).runs[run]? = some { old with
          playing := old.playing.map fun other => if other.game = entry.game then movedEntry entry choice else other } := by
      rw [runs, List.getElem?_modify, found]
      simp
    refine pushes.turns rating ?_ after pool own ?_ ?_ now
    · rw [control]
      exact single
    · exact List.mem_map.mpr ⟨entry, inside, if_pos rfl⟩
    · rw [gameAt, next, here]
      simp

end

end Runner

end SpaceApp.Chess
