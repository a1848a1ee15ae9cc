import SpaceApp.Chess.RunnerControl
import SpaceApp.Chess.SwissRounds

/-! The games of the runner: whose turn each of them has, and that a game is finished and booked once.
-/

set_option autoImplicit false

namespace SpaceApp.Chess

open SpaceApp.Foundation

/-- The standings are the contestants', the players contestants, and only a bye has one player. -/
structure Known (tournament : Tournament) : Prop where
  names : tournament.state.standings.map ChessStanding.id = tournament.state.contestants
  distinct : tournament.state.contestants.Nodup
  white : ∀ game ∈ tournament.state.games, game.white ∈ tournament.state.contestants
  black : ∀ game ∈ tournament.state.games, ∀ black, game.black = some black → black ∈ tournament.state.contestants
  bye : ∀ game ∈ tournament.state.games, game.black = none → game.status = .finished

namespace Known

variable {tournament : Tournament}

theorem standing (known : Known tournament) {id : String} (inside : id ∈ tournament.state.contestants) :
    ∃ standing, standingOf tournament.state.standings id = some standing :=
  standingOf_isSome (known.names ▸ inside)

theorem games (known : Known tournament) {change : ChessGame → ChessGame}
    (same : ∀ game ∈ tournament.state.games, (change game).white = game.white ∧ (change game).black = game.black ∧
      (game.status = .finished → (change game).status = .finished))
    {state : ChessTournamentState}
    (names : state.standings.map ChessStanding.id = tournament.state.standings.map ChessStanding.id)
    (contestants : state.contestants = tournament.state.contestants)
    (games : ∀ game ∈ state.games, game ∈ tournament.state.games ∨ ∃ old ∈ tournament.state.games, game = change old)
    {history : Nat → List Choice} : Known { state, history } where
  names := by rw [names, known.names, contestants]
  distinct := contestants ▸ known.distinct
  white := fun game inside => by
    rw [contestants]
    rcases games game inside with old | ⟨old, there, rfl⟩
    · exact known.white game old
    · rw [(same old there).1]
      exact known.white old there
  black := fun game inside black plays => by
    rw [contestants]
    rcases games game inside with old | ⟨old, there, rfl⟩
    · exact known.black game old black plays
    · rw [(same old there).2.1] at plays
      exact known.black old there black plays
  bye := fun game inside alone => by
    rcases games game inside with old | ⟨old, there, rfl⟩
    · exact known.bye game old alone
    · rw [(same old there).2.1] at alone
      exact (same old there).2.2 (known.bye old there alone)

theorem other (known : Known tournament) {state : ChessTournamentState}
    (names : state.standings.map ChessStanding.id = tournament.state.standings.map ChessStanding.id)
    (contestants : state.contestants = tournament.state.contestants) (games : state.games = tournament.state.games)
    {history : Nat → List Choice} : Known { state, history } :=
  @Known.games _ known id (fun _ _ => ⟨rfl, rfl, fun ended => ended⟩) state names contestants
    (fun _ inside => .inl (games ▸ inside)) history

theorem editGame (known : Known tournament) {place : Nat} {change : ChessGame → ChessGame}
    (same : ∀ game, tournament.state.games[place]? = some game → (change game).white = game.white ∧
      (change game).black = game.black ∧ (game.status = .finished → (change game).status = .finished))
    {history : Nat → List Choice} : Known { state := (tournament.editGame place change).state, history } := by
  have one : ∀ game ∈ (tournament.state.games.modify place change),
      game.white ∈ tournament.state.contestants ∧
        (∀ black, game.black = some black → black ∈ tournament.state.contestants) ∧
        (game.black = none → game.status = .finished) := by
    intro game inside
    rcases mem_modify inside with old | ⟨old, found, rfl⟩
    · exact ⟨known.white game old, known.black game old, known.bye game old⟩
    · have there := List.mem_of_getElem? found
      obtain ⟨white, black, ended⟩ := same old found
      rw [white, black]
      exact ⟨known.white old there, known.black old there, fun alone => ended (known.bye old there alone)⟩
  exact {
    __ := known
    white := fun game inside => (one game inside).1
    black := fun game inside => (one game inside).2.1
    bye := fun game inside => (one game inside).2.2 }

theorem interrupted (known : Known tournament) : Known (Runner.interrupted tournament) := by
  refine @Known.games tournament known (fun game => if game.status = .running then pauseGame game else game) ?_
    (Runner.interrupted tournament).state rfl rfl ?_ _
  · intro game _
    split
    · next running => exact ⟨rfl, rfl, fun ended => by simp [running] at ended⟩
    · exact ⟨rfl, rfl, fun ended => ended⟩
  · intro game inside
    obtain ⟨old, there, rfl⟩ := List.mem_map.mp inside
    exact .inr ⟨old, there, rfl⟩

theorem mem_roundGames {round : Nat} {pairs : List (String × String)} {game : ChessGame}
    (inside : game ∈ roundGames round pairs) : ∃ pair ∈ pairs, game.white = pair.1 ∧ game.black = some pair.2 ∧
      game.status = .pending := by
  obtain ⟨place, bound, rfl⟩ := List.mem_mapIdx.mp inside
  exact ⟨pairs[place], List.getElem_mem bound, rfl, rfl, rfl⟩

theorem start {settings : ChessTournamentSettings} {ids : List String} {id now : String} (distinct : ids.Nodup)
    (valid : ∀ id ∈ ids, isChessContestantId id) (two : 2 ≤ ids.length) {history : Nat → List Choice} :
    Known { state := startState settings ids id now, history } := by
  have named : ∀ id ∈ ids, id ≠ "" := by
    rintro id inside rfl
    exact absurd (valid _ inside) (by decide)
  have players := (roundRobin_complete distinct named two).2
  have one : ∀ game ∈ (startState settings ids id now).games,
      game.white ∈ ids ∧ (∀ black, game.black = some black → black ∈ ids) ∧ game.black ≠ none := by
    intro game inside
    simp only [startState] at inside
    split at inside
    · obtain ⟨games, there, inside⟩ := List.mem_flatten.mp inside
      obtain ⟨index, bound, rfl⟩ := List.mem_mapIdx.mp there
      obtain ⟨pair, paired, white, black, -⟩ := mem_roundGames inside
      obtain ⟨left, right, -⟩ := (players _ (List.getElem_mem bound)).1 pair paired
      rw [white, black]
      exact ⟨left, fun other same => by
        simp only [Option.some.injEq] at same
        exact same ▸ right, by simp⟩
    · simp at inside
  exact {
    names := startState_names settings ids id now
    distinct := distinct
    white := fun game inside => (one game inside).1
    black := fun game inside => (one game inside).2.1
    bye := fun game inside alone => absurd alone (one game inside).2.2 }

theorem pairNextSwissRound (known : Known tournament) (now : String) {history : Nat → List Choice} :
    Known { state := Chess.pairNextSwissRound tournament.state now, history } := by
  have names : (tournament.state.standings.map ChessStanding.id).Nodup := known.names ▸ known.distinct
  have everybody := @swissPairings_all tournament.state.standings (playedKeys tournament.state.games)
    (tournament.state.round + 1) (fun id => (stableHash (tournament.state.id ++ ":" ++ id)).toNat) names
  have inside : ∀ id ∈ players (nextPairings tournament.state).pairs ++ (nextPairings tournament.state).bye.toList,
      id ∈ tournament.state.contestants := fun id there => known.names ▸ everybody.mem_iff.mp there
  have contestants : (Chess.pairNextSwissRound tournament.state now).contestants = tournament.state.contestants := by
    simp only [Chess.pairNextSwissRound]
    split <;> rfl
  have one : ∀ game ∈ (Chess.pairNextSwissRound tournament.state now).games,
      game.white ∈ tournament.state.contestants ∧
        (∀ black, game.black = some black → black ∈ tournament.state.contestants) ∧
        (game.black = none → game.status = .finished) := by
    have paired : ∀ game ∈ tournament.state.games ++
        roundGames (tournament.state.round + 1) (nextPairings tournament.state).pairs,
        game.white ∈ tournament.state.contestants ∧
          (∀ black, game.black = some black → black ∈ tournament.state.contestants) ∧
          (game.black = none → game.status = .finished) := by
      intro game there
      rcases List.mem_append.mp there with old | new
      · exact ⟨known.white game old, known.black game old, known.bye game old⟩
      · obtain ⟨pair, paired, white, black, -⟩ := mem_roundGames new
        have both : ∀ id ∈ [pair.1, pair.2], id ∈ tournament.state.contestants := fun id own =>
          inside id (List.mem_append_left _ (List.mem_flatMap.mpr ⟨pair, paired, own⟩))
        rw [white, black]
        refine ⟨both _ (by simp), fun other same => ?_, by simp⟩
        simp only [Option.some.injEq] at same
        exact same ▸ both _ (by simp)
    intro game there
    simp only [Chess.pairNextSwissRound] at there
    split at there
    · next bye given =>
      rcases List.mem_append.mp there with earlier | new
      · exact paired game earlier
      · rw [List.mem_singleton.mp new]
        exact ⟨inside bye (List.mem_append_right _ (by simp [given])), by simp [byeGame, newGame], fun _ => rfl⟩
    · exact paired game there
  exact {
    names := by
      have firsts := congrArg (List.map Prod.fst) (pairNextSwissRound_byes tournament.state now)
      simp only [List.map_map, Function.comp_def] at firsts
      rw [contestants, ← known.names]
      exact firsts
    distinct := contestants ▸ known.distinct
    white := fun game there => contestants ▸ (one game there).1
    black := fun game there => contestants ▸ (one game there).2.1
    bye := fun game there => (one game there).2.2 }

end Known

/-- The games of a pool: those that are played are running, those in the queue pending, and each is there once. -/
structure PoolOk (status : Nat → Option ChessGameStatus) (run : Run) : Prop where
  playing : ∀ entry ∈ run.playing, status entry.game = some .running
  once : (run.playing.map Playing.game).Nodup
  queue : ∀ place ∈ run.queue, status place = some .pending
  queued : run.queue.Nodup

namespace Runner

def statusAt (runner : Runner) (object place : Nat) : Option ChessGameStatus :=
  (runner.gameAt object place).map ChessGame.status

structure GamesOk (runner : Runner) : Prop where
  objects : ∀ tournament ∈ runner.objects, Known tournament
  saving : ∀ tournament ∈ runner.saving, Known tournament
  file : ∀ tournament, runner.file = some tournament → Known tournament
  quiet : ∀ run ∈ runner.runs, run.point ≠ .pool → run.playing = [] ∧ (run.queue = [] ∨ run.aborted = true)
  pool : ∀ (place : Nat) (run : Run) (object : Nat), runner.runs[place]? = some run → run.point = .pool →
    run.object = some object → PoolOk (runner.statusAt object) run
  booked : runner.booked = runner.finished
  once : runner.finished.Nodup
  finished : ∀ entry ∈ runner.finished, runner.statusAt entry.1 entry.2 = some .finished

section

variable {runner : Runner}

theorem edit_object {object other : Nat} {change : Tournament → Tournament} :
    (runner.edit object change).objects[other]? =
      (runner.objects[other]?).map fun tournament => if object = other then change tournament else tournament := by
  rw [edit, List.getElem?_modify]
  rfl

theorem gameAt_edit {object : Nat} {change : Tournament → Tournament}
    (same : ∀ tournament, (change tournament).state.games = tournament.state.games) (other place : Nat) :
    (runner.edit object change).gameAt other place = runner.gameAt other place := by
  rw [gameAt, gameAt, edit_object]
  cases runner.objects[other]? with
  | none => rfl
  | some tournament =>
    simp only [Option.map_some, Option.bind_some]
    split
    · rw [same]
    · rfl

theorem gameAt_editGame (object place : Nat) (change : ChessGame → ChessGame) {history : Tournament → Nat → List Choice}
    (other game : Nat) :
    (runner.edit object fun tournament => { tournament.editGame place change with history := history tournament }).gameAt
        other game =
      (runner.gameAt other game).map fun old => if other = object ∧ game = place then change old else old := by
  rw [gameAt, gameAt, edit_object]
  cases runner.objects[other]? with
  | none => rfl
  | some tournament =>
    by_cases own : object = other
    · subst own
      simp only [if_true, true_and, Tournament.editGame, Tournament.edit, List.getElem?_modify]
      by_cases here : place = game
      · subst here
        simp
      · simp [here, Ne.symm here]
    · simp [own, Ne.symm own]

@[simp]
theorem gameAt_touch (now : String) (object place : Nat) : (runner.touch now).gameAt object place = runner.gameAt object place := by
  unfold touch
  split
  · exact gameAt_edit (fun _ => by rfl) _ _
  · rfl

@[simp]
theorem gameAt_persist (now : String) (object place : Nat) :
    (runner.persist now).gameAt object place = runner.gameAt object place := by
  unfold persist
  split
  · exact gameAt_touch now object place
  · rfl

theorem touch_frame (now : String) : (runner.touch now).runs = runner.runs ∧ (runner.touch now).file = runner.file ∧
      (runner.touch now).saving = runner.saving ∧ (runner.touch now).booked = runner.booked ∧
      (runner.touch now).finished = runner.finished := by
  unfold touch
  split <;> exact ⟨rfl, rfl, rfl, rfl, rfl⟩

theorem persist_frame (now : String) :
    (runner.persist now).runs = runner.runs ∧ (runner.persist now).file = runner.file ∧
      (runner.persist now).booked = runner.booked ∧ (runner.persist now).finished = runner.finished := by
  obtain ⟨runs, file, -, booked, finished⟩ := @touch_frame runner now
  unfold persist
  split
  · exact ⟨runs, file, booked, finished⟩
  · exact ⟨rfl, rfl, rfl, rfl⟩

theorem mem_edit {object : Nat} {change : Tournament → Tournament} {tournament : Tournament}
    (inside : tournament ∈ (runner.edit object change).objects) :
    tournament ∈ runner.objects ∨ ∃ old, runner.objects[object]? = some old ∧ tournament = change old :=
  mem_modify inside

theorem touch_known (now : String) (known : ∀ tournament ∈ runner.objects, Known tournament) :
    ∀ tournament ∈ (runner.touch now).objects, Known tournament := by
  intro tournament inside
  unfold touch at inside
  split at inside
  · rcases mem_edit inside with old | ⟨old, found, rfl⟩
    · exact known _ old
    · exact (known old (List.mem_of_getElem? found)).other (by rfl) (by rfl) (by rfl)
  · exact known _ inside

theorem persist_known (now : String) (known : ∀ tournament ∈ runner.objects, Known tournament)
    (saving : ∀ tournament ∈ runner.saving, Known tournament) :
    (∀ tournament ∈ (runner.persist now).objects, Known tournament) ∧
      ∀ tournament ∈ (runner.persist now).saving, Known tournament := by
  have touched := touch_known now known
  obtain ⟨-, -, same, -⟩ := @touch_frame runner now
  unfold persist
  split
  · refine ⟨touched, fun tournament inside => ?_⟩
    rcases List.mem_append.mp inside with old | new
    · exact saving tournament (same ▸ old)
    · exact touched tournament (List.mem_of_getElem? (Option.mem_toList.mp new))
  · exact ⟨known, saving⟩

namespace GamesOk

theorem keep (ok : GamesOk runner) {next : Runner} (runs : next.runs = runner.runs) (booked : next.booked = runner.booked)
    (finished : next.finished = runner.finished) (file : ∀ tournament, next.file = some tournament → Known tournament)
    (objects : ∀ tournament ∈ next.objects, Known tournament) (saving : ∀ tournament ∈ next.saving, Known tournament)
    (same : ∀ object place status, runner.statusAt object place = some status → next.statusAt object place = some status) :
    GamesOk next where
  objects := objects
  saving := saving
  file := file
  quiet := runs ▸ ok.quiet
  pool := fun place run object found pool own => by
    have before := ok.pool place run object (runs ▸ found) pool own
    exact {
      playing := fun entry inside => same _ _ _ (before.playing entry inside)
      once := before.once
      queue := fun place inside => same _ _ _ (before.queue place inside)
      queued := before.queued }
  booked := by rw [booked, finished, ok.booked]
  once := finished ▸ ok.once
  finished := fun entry inside => same _ _ _ (ok.finished entry (finished ▸ inside))

theorem persist (ok : GamesOk runner) (now : String) : GamesOk (runner.persist now) := by
  obtain ⟨runs, file, booked, finished⟩ := @persist_frame runner now
  obtain ⟨objects, saving⟩ := persist_known now ok.objects ok.saving
  refine ok.keep runs booked finished (file ▸ ok.file) objects saving fun object place status found => ?_
  rw [statusAt, gameAt_persist]
  exact found

theorem editOther (ok : GamesOk runner) {object : Nat} {change : ChessTournamentState → ChessTournamentState}
    (same : ∀ state, (change state).games = state.games ∧ (change state).contestants = state.contestants ∧
      (change state).standings = state.standings) :
    GamesOk (runner.edit object fun tournament => tournament.edit change) := by
  refine ok.keep rfl rfl rfl ok.file (fun tournament inside => ?_) ok.saving fun other place status found => ?_
  · rcases mem_edit inside with old | ⟨old, found, rfl⟩
    · exact ok.objects _ old
    · exact (ok.objects old (List.mem_of_getElem? found)).other (by rw [(same _).2.2]) (same _).2.1 (same _).1
  · rw [statusAt, gameAt_edit fun tournament => (same tournament.state).1]
    exact found

end GamesOk

end

end Runner

end SpaceApp.Chess
