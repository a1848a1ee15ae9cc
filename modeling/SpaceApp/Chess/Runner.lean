import SpaceApp.Foundation.Reach
import SpaceApp.Chess.Standings

/-! The tournament runner (`ChessTournamentRunner`): its calls, its runs and its saves, one step at each `await`.

A state object is its place in `objects`, a game its place in its tournament. A step of a run up to its next `await`
may be taken apart; provider slots only decide when a choice arrives, and what is shown but never read is left out.
-/

set_option autoImplicit false

namespace SpaceApp.Chess

open SpaceApp.Foundation

structure Tournament where
  state : ChessTournamentState
  /-- The choices kept in each game; no step reads them. -/
  history : Nat → List Choice

structure Playing where
  game : Nat
  maxPlies : Nat
  live : Live

inductive RunPoint where
  | top
  | saving (ticket : Nat)
  | pool
  | ending (ticket : Nat)
  | returned
  | ended
  deriving DecidableEq

structure Run where
  object : Option Nat
  /-- The state its start or resume call decided on; no step reads it. -/
  decided : Nat
  aborted : Bool := false
  point : RunPoint := .top
  queue : List Nat := []
  idle : Nat := 0
  playing : List Playing := []

inductive CallKind where
  | load
  | start (settings : ChessTournamentSettings) (ids : List String)
  | resume
  | resumeIfInterrupted
  | reset
  | stop (status : ChessTournamentStatus)
  deriving DecidableEq

inductive CallPoint where
  | reading
  | loaded (state : Option Nat)
  | saving (ticket object : Nat)
  | unlinking (ticket : Nat)
  | stopping (run : Nat)
  | done
  deriving DecidableEq

structure Call where
  kind : CallKind
  point : CallPoint
  deriving DecidableEq

structure Runner where
  objects : List Tournament := []
  state : Option Nat := none
  loaded : Bool := false
  loop : Option Nat := none
  controller : Option Nat := none
  runs : List Run := []
  calls : List Call := []
  saving : List Tournament := []
  settled : Nat := 0
  file : Option Tournament := none
  /-- The starts and resets that have replaced the state; no step reads this and the next three. -/
  decisions : Nat := 0
  finished : List (Nat × Nat) := []
  booked : List (Nat × Nat) := []
  unhandled : Bool := false

inductive Event where
  | call (kind : CallKind)
  | read (call : Nat) (readable : Bool)
  | check (call : Nat) (now id : String) (recent : Bool)
  | launch (call : Nat)
  | unlinked (call : Nat) (removed : Bool)
  | stopped (call : Nat) (now : String)
  | settle (written : Bool)
  | crash
  | round (run : Nat) (now : String)
  | saved (run : Nat)
  | pick (run game : Nat) (now : String)
  | answer (run game : Nat) (choice : Choice) (now : String) (save : Bool)
  | abandon (run game : Nat)
  | poolOver (run : Nat)
  | finally_ (run : Nat)

def Tournament.edit (tournament : Tournament) (change : ChessTournamentState → ChessTournamentState) : Tournament :=
  { tournament with state := change tournament.state }

def Tournament.editGame (tournament : Tournament) (game : Nat) (change : ChessGame → ChessGame) : Tournament :=
  tournament.edit fun state => { state with games := state.games.modify game change }

namespace Runner

def edit (runner : Runner) (object : Nat) (change : Tournament → Tournament) : Runner :=
  { runner with objects := runner.objects.modify object change }

def editRun (runner : Runner) (run : Nat) (change : Run → Run) : Runner :=
  { runner with runs := runner.runs.modify run change }

def setCall (runner : Runner) (call : Nat) (point : CallPoint) : Runner :=
  { runner with calls := runner.calls.modify call fun old => { old with point } }

def addCall (runner : Runner) (kind : CallKind) (point : CallPoint) : Runner :=
  { runner with calls := runner.calls ++ [{ kind, point }] }

def ticket (runner : Runner) : Nat := runner.settled + runner.saving.length

def touch (runner : Runner) (now : String) : Runner :=
  match runner.state with
  | some object => runner.edit object fun tournament => tournament.edit fun state => { state with updatedAt := now }
  | none => runner

def persist (runner : Runner) (now : String) : Runner :=
  match runner.state with
  | some object =>
    let touched := runner.touch now
    { touched with saving := touched.saving ++ (touched.objects[object]?).toList }
  | none => runner

def begin_ (runner : Runner) (kind : CallKind) : Runner :=
  match kind with
  | .stop _ =>
    match runner.loop with
    | none => runner
    | some run =>
      let aborted :=
        match runner.controller with
        | some current => runner.editRun current fun run => { run with aborted := true }
        | none => runner
      aborted.addCall kind (.stopping run)
  | _ =>
    if runner.loaded then runner.addCall kind (.loaded runner.state)
    else { runner with loaded := true }.addCall kind .reading

def interrupted (saved : Tournament) : Tournament :=
  saved.edit fun state =>
    { state with
      status := if state.status = .running then .interrupted else state.status
      games := state.games.map fun game => if game.status = .running then pauseGame game else game }

def read (runner : Runner) (call : Nat) (readable : Bool) : Runner :=
  match runner.file, readable with
  | some saved, true =>
    { runner with objects := runner.objects ++ [interrupted saved], state := some runner.objects.length }.setCall call
      (.loaded (some runner.objects.length))
  | _, _ => { runner with state := none }.setCall call (.loaded none)

def statusOf (runner : Runner) (object : Nat) : Option ChessTournamentStatus :=
  (runner.objects[object]?).map fun tournament => tournament.state.status

/-- `start` after its `load`. -/
def startChecked (runner : Runner) (call : Nat) (settings : ChessTournamentSettings) (ids : List String) (now id : String) :
    Runner :=
  if runner.loop.isSome ∨ ids.length < 2 then runner.setCall call .done
  else
    let object := runner.objects.length
    let tournament : Tournament := { state := startState settings ids id now, history := fun _ => [] }
    let saved := { runner with
      objects := runner.objects ++ [tournament]
      state := some object
      decisions := runner.decisions + 1 }.persist now
    saved.setCall call (.saving saved.ticket object)

/-- `resume` after its `load` has given this state. -/
def resumeChecked (runner : Runner) (call : Nat) (state : Option Nat) (now : String) : Runner :=
  match state with
  | none => runner.setCall call .done
  | some object =>
    if runner.loop.isSome ∨ runner.statusOf object = some .completed then runner.setCall call .done
    else
      let saved := (runner.edit object fun tournament => tournament.edit fun state =>
        { state with
          status := .running
          error := none }).persist now
      saved.setCall call (.saving saved.ticket object)

def check (runner : Runner) (call : Nat) (now id : String) (recent : Bool) : Runner :=
  match runner.calls[call]? with
  | some ⟨.start settings ids, .loaded _⟩ => runner.startChecked call settings ids now id
  | some ⟨.resume, .loaded state⟩ => runner.resumeChecked call state now
  | some ⟨.resumeIfInterrupted, .loaded state⟩ =>
    -- it goes on as a `resume`, which loads once more
    if (state.bind runner.statusOf) = some .interrupted ∧ runner.loop = none ∧ recent then
      { runner with calls := runner.calls.set call { kind := .resume, point := .loaded runner.state } }
    else runner.setCall call .done
  | some ⟨.reset, .loaded _⟩ =>
    if runner.loop.isSome then runner.setCall call .done
    else { runner with state := none, decisions := runner.decisions + 1 }.setCall call (.unlinking runner.ticket)
  | _ => runner.setCall call .done

def launch (runner : Runner) (call : Nat) : Runner :=
  match runner.calls[call]? with
  | some ⟨_, .saving _ decided⟩ =>
    let run : Run :=
      match runner.state with
      | some object => { object := some object, decided }
      | none => { object := none, decided, point := .returned }
    { runner with
      runs := runner.runs ++ [run]
      loop := some runner.runs.length
      controller := some runner.runs.length
      unhandled := runner.unhandled || runner.state.isNone }.setCall call .done
  | _ => runner

def unlinked (runner : Runner) (call : Nat) (removed : Bool) : Runner :=
  { runner with file := if removed then none else runner.file }.setCall call .done

def stopped (runner : Runner) (call : Nat) (now : String) : Runner :=
  match runner.calls[call]?, runner.state with
  | some ⟨.stop status, _⟩, some object =>
    if runner.statusOf object = some .running then
      ((runner.edit object fun tournament => tournament.edit fun state => { state with status }).persist now).setCall call .done
    else runner.setCall call .done
  | _, _ => runner.setCall call .done

def settle (runner : Runner) (written : Bool) : Runner :=
  match runner.saving with
  | [] => runner
  | first :: rest =>
    { runner with
      saving := rest
      settled := runner.settled + 1
      file := if written then some first else runner.file }

/-- A new process: only the file is left. -/
def crash (runner : Runner) : Runner := { file := runner.file }

def failedState (state : ChessTournamentState) (message : String) : ChessTournamentState :=
  { state with
    status := .stopped
    error := some message
    games := state.games.map fun game => if game.status = .running then pauseGame game else game }

def runFails (runner : Runner) (run object : Nat) (message now : String) : Runner :=
  let saved := (runner.edit object fun tournament => tournament.edit fun state => failedState state message).persist now
  saved.editRun run fun old => { old with point := .ending saved.ticket }

/-- A worker that throws is lost; the first one ends the pool. -/
def workerFails (runner : Runner) (run object : Nat) (message now : String) : Runner :=
  if (runner.runs[run]?).map Run.point = some .pool then runner.runFails run object message now else runner

def leave (runner : Runner) (run game : Nat) : Runner :=
  runner.editRun run fun old => { old with playing := old.playing.filter fun entry => entry.game ≠ game }

def free (runner : Runner) (run : Nat) : Runner := runner.editRun run fun old => { old with idle := old.idle + 1 }

def isAborted (runner : Runner) (run : Nat) : Bool := ((runner.runs[run]?).map Run.aborted).getD false

def gameThrows (runner : Runner) (run object game : Nat) (message now : String) : Runner :=
  let left := runner.leave run game
  if runner.isAborted run then (left.edit object fun tournament => tournament.editGame game pauseGame).free run
  else left.workerFails run object message now

def TYPE_ERROR : String := "TypeError"

def finishGame (rating : ℚ → ℚ → ℚ → ℚ) (runner : Runner) (run object place : Nat) (game : ChessGame)
    (result : ChessResult) (reason : ChessGameEndReason) (forfeitedBy : Option ChessColor) (now : String) : Runner :=
  let ended := { runner.edit object fun tournament => tournament.editGame place fun game => endGame game result reason now with
    finished := runner.finished ++ [(object, place)] }
  match runner.state with
  | none => ended.gameThrows run object place TYPE_ERROR now
  | some current =>
    match ended.objects[current]? with
    | none => ended.gameThrows run object place TYPE_ERROR now
    | some tournament =>
      match bookResult rating tournament.state.standings game.white (game.black.getD "") result
          (game.stats.getD emptySideStats) forfeitedBy with
      | none => ended.gameThrows run object place TYPE_ERROR now
      | some standings =>
        let booked := { ended.edit current fun tournament => tournament.edit fun state => { state with standings } with
          booked := ended.booked ++ [(object, place)] }
        ((booked.persist now).leave run place).free run

def turn (rating : ℚ → ℚ → ℚ → ℚ) (runner : Runner) (run object place : Nat) (game : ChessGame) (entry : Playing)
    (now : String) : Runner :=
  if runner.isAborted run then runner.gameThrows run object place "Stopped" now
  else
    match loopHead entry.maxPlies game entry.live with
    | some (result, reason) => runner.finishGame rating run object place game result reason none now
    | none =>
      let thinking := runner.edit object fun tournament => tournament.editGame place fun game =>
        { game with
          thinking := some entry.live.position.turn
          queued := true }
      if runner.state.isNone then thinking.gameThrows run object place TYPE_ERROR now else thinking

def gameAt (runner : Runner) (object place : Nat) : Option ChessGame :=
  (runner.objects[object]?).bind fun tournament => tournament.state.games[place]?

/-- The pending games, the earliest round first. -/
def pendingGames (games : List ChessGame) : List Nat :=
  ((List.range games.length).filter fun place => (games[place]?).map ChessGame.status = some .pending).insertionSort
    fun left right => ((games[left]?).map ChessGame.round).getD 0 ≤ ((games[right]?).map ChessGame.round).getD 0

/-- A finished or a new round, or the next pool. -/
def round (runner : Runner) (run : Nat) (now : String) : Runner :=
  match (runner.runs[run]?).bind Run.object with
  | none => runner
  | some object =>
    if runner.isAborted run then runner.editRun run fun old => { old with point := .returned }
    else
      match runner.objects[object]? with
      | none => runner
      | some tournament =>
        if pendingGames tournament.state.games = [] then
          if tournament.state.settings.format = .swiss ∧ tournament.state.round < tournament.state.totalRounds then
            let saved := (runner.edit object fun tournament =>
              tournament.edit fun state => pairNextSwissRound state now).persist now
            saved.editRun run fun old => { old with point := .saving saved.ticket }
          else
            let saved := (runner.edit object fun tournament => tournament.edit fun state =>
              { state with
                status := .completed
                completedAt := some now }).persist now
            saved.editRun run fun old => { old with point := .ending saved.ticket }
        else
          match runner.state.bind fun current => runner.objects[current]? with
          | none => runner.runFails run object TYPE_ERROR now
          | some current =>
            runner.editRun run fun old =>
              { old with
                point := .pool
                queue := pendingGames tournament.state.games
                idle := max 1 (min current.state.settings.concurrency (pendingGames tournament.state.games).length) }

def pick (rating : ℚ → ℚ → ℚ → ℚ) (runner : Runner) (run place : Nat) (now : String) : Runner :=
  match (runner.runs[run]?).bind Run.object with
  | none => runner
  | some object =>
    match runner.gameAt object place with
    | none => runner
    | some game =>
      let taken := runner.editRun run fun old =>
        { old with
          queue := old.queue.erase place
          idle := old.idle - 1 }
      match runner.state.bind fun current => runner.objects[current]? with
      | none => taken.workerFails run object TYPE_ERROR now
      | some current =>
        if game.white ∈ current.state.contestants ∧ game.black.getD "" ∈ current.state.contestants then
          let entry : Playing :=
            { game := place
              maxPlies := current.state.settings.maxPlies
              live := (resumedLive game).getD startLive }
          let begun := taken.edit object fun tournament =>
            { tournament.editGame place fun game => beginGame game now with
              history := if (resumedLive game).isSome then tournament.history else Function.update tournament.history place [] }
          (begun.editRun run fun old => { old with playing := old.playing ++ [entry] }).turn rating run object place
            (beginGame game now) entry now
        else taken.workerFails run object "Unknown contestant." now

def answer (rating : ℚ → ℚ → ℚ → ℚ) (runner : Runner) (run place : Nat) (choice : Choice) (now : String) (save : Bool) :
    Runner :=
  match runner.runs[run]? with
  | none => runner
  | some old =>
    match old.object, old.playing.find? fun entry => entry.game = place with
    | some object, some entry =>
      match runner.gameAt object place with
      | none => runner
      | some game =>
        let side := entry.live.position.turn
        let noted := { noteChoice game side choice with queued := false }
        let kept := fun (game : ChessGame) => runner.edit object fun tournament =>
          { tournament.editGame place fun _ => game with
            history := Function.update tournament.history place (tournament.history place ++ [choice]) }
        if forfeits game side choice then
          (kept noted).finishGame rating run object place noted (forfeitResult side) .forfeit (some side) now
        else
          let moved := pushMove noted entry.live choice.move
          let next : Playing := { entry with live := entry.live.after choice.move }
          let pushed := ((kept moved).touch now).editRun run fun old =>
            { old with playing := old.playing.map fun other => if other.game = place then next else other }
          (if save then pushed.persist now else pushed).turn rating run object place moved next now
    | _, _ => runner

def abandon (runner : Runner) (run place : Nat) : Runner :=
  match (runner.runs[run]?).bind Run.object with
  | none => runner
  | some object =>
    ((runner.leave run place).edit object fun tournament => tournament.editGame place pauseGame).free run

def saved (runner : Runner) (run : Nat) : Runner :=
  runner.editRun run fun old =>
    match old.point with
    | .saving _ => { old with point := .top }
    | .ending _ => { old with point := .returned }
    | _ => old

def finally_ (runner : Runner) (run : Nat) : Runner :=
  { runner.editRun run fun old => { old with point := .ended } with
    loop := none
    controller := none }

def step (rating : ℚ → ℚ → ℚ → ℚ) (runner : Runner) : Event → Runner
  | .call kind => runner.begin_ kind
  | .read call readable => runner.read call readable
  | .check call now id recent => runner.check call now id recent
  | .launch call => runner.launch call
  | .unlinked call removed => runner.unlinked call removed
  | .stopped call now => runner.stopped call now
  | .settle written => runner.settle written
  | .crash => runner.crash
  | .round run now => runner.round run now
  | .saved run => runner.saved run
  | .pick run game now => runner.pick rating run game now
  | .answer run game choice now save => runner.answer rating run game choice now save
  | .abandon run game => runner.abandon run game
  | .poolOver run => runner.editRun run fun old => { old with point := .top }
  | .finally_ run => runner.finally_ run

/-- What the start route lets through: distinct contestant ids. -/
def CallKind.valid : CallKind → Prop
  | .start _ ids => ids.Nodup ∧ ∀ id ∈ ids, isChessContestantId id
  | _ => True

/-- The moves are legal, saves that are waited for have settled, and workers take what is queued. -/
def allowed (runner : Runner) : Event → Prop
  | .call kind => CallKind.valid kind
  | .read call _ => (runner.calls[call]?).map Call.point = some .reading
  | .check call _ _ _ => ∃ kind state, runner.calls[call]? = some ⟨kind, .loaded state⟩
  | .launch call => ∃ kind ticket object, runner.calls[call]? = some ⟨kind, .saving ticket object⟩ ∧ ticket ≤ runner.settled
  | .unlinked call _ => ∃ kind ticket, runner.calls[call]? = some ⟨kind, .unlinking ticket⟩ ∧ ticket ≤ runner.settled
  | .stopped call _ => ∃ kind run, runner.calls[call]? = some ⟨kind, .stopping run⟩ ∧
      (runner.runs[run]?).map Run.point = some .ended
  | .settle _ => True
  | .crash => True
  | .round run _ => (runner.runs[run]?).map Run.point = some .top
  | .saved run => ∃ ticket, ticket ≤ runner.settled ∧
      ((runner.runs[run]?).map Run.point = some (.saving ticket) ∨ (runner.runs[run]?).map Run.point = some (.ending ticket))
  | .pick run game _ => ∃ old, runner.runs[run]? = some old ∧ game ∈ old.queue ∧ 0 < old.idle ∧ old.aborted = false
  | .answer run game choice _ _ => ∃ old entry, runner.runs[run]? = some old ∧
      (old.playing.find? fun entry => entry.game = game) = some entry ∧ choice.move ∈ legalMoves entry.live.position
  | .abandon run game => ∃ old, runner.runs[run]? = some old ∧ old.aborted = true ∧ ∃ entry ∈ old.playing, entry.game = game
  | .poolOver run => ∃ old, runner.runs[run]? = some old ∧ old.point = .pool ∧ old.playing = [] ∧
      (old.queue = [] ∨ old.aborted = true)
  | .finally_ run => (runner.runs[run]?).map Run.point = some .returned

end Runner

end SpaceApp.Chess
