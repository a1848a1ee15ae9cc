import Mathlib.Data.List.Sort
import Mathlib.Data.Rat.Defs
import Mathlib.Algebra.Order.Ring.Rat
import SpaceApp.Foundation.JsText

/-! The chess tournament (`chess-tournament.ts`): its records, the round-robin schedule and the Swiss pairings.

Points and ratings are exact numbers; a record of standings is the list of its values.
-/

set_option autoImplicit false

namespace SpaceApp.Chess

open SpaceApp.Foundation

inductive ChessColor where
  | w | b
  deriving DecidableEq

inductive ChessResult where
  | whiteWins | blackWins | draw
  deriving DecidableEq

/-- `ChessEndReason` and the three the tournament adds. -/
inductive ChessGameEndReason where
  | checkmate | stalemate | threefold | fiftyMove | insufficientMaterial | adjudication | forfeit | bye
  deriving DecidableEq

inductive ChessGameStatus where
  | pending | running | finished
  deriving DecidableEq

structure SideStats where
  modelMoves : Nat := 0
  illegalReplies : Nat := 0
  fallbackMoves : Nat := 0
  totalLatencyMs : ℚ := 0
  tokens : ℚ := 0
  deriving DecidableEq

/-- `{ w: …; b: … }` -/
structure BySide (A : Type) where
  w : A
  b : A
  deriving DecidableEq

def BySide.get {A : Type} (sides : BySide A) : ChessColor → A
  | .w => sides.w
  | .b => sides.b

def BySide.set {A : Type} (sides : BySide A) (color : ChessColor) (value : A) : BySide A :=
  match color with
  | .w => { sides with w := value }
  | .b => { sides with b := value }

structure ChessStanding where
  id : String
  seed : Nat
  points : ℚ := 0
  wins : Nat := 0
  draws : Nat := 0
  losses : Nat := 0
  byes : Nat := 0
  games : Nat := 0
  elo : ℚ := 1500
  buchholz : ℚ := 0
  whiteGames : Nat := 0
  blackGames : Nat := 0
  modelMoves : Nat := 0
  illegalReplies : Nat := 0
  fallbackMoves : Nat := 0
  forfeits : Nat := 0
  totalLatencyMs : ℚ := 0
  tokens : ℚ := 0
  opponents : List String := []
  deriving DecidableEq

def emptyStanding (id : String) (seed : Nat) : ChessStanding := { id, seed }

def START_FEN : String := "rnbqkbnr/pppppppp/8/8/8/8/PPPPPPPP/RNBQKBNR w KQkq - 0 1"

structure ChessGame where
  id : String
  round : Nat
  white : String
  /-- `none` for a bye. -/
  black : Option String
  status : ChessGameStatus := .pending
  result : Option ChessResult := none
  reason : Option ChessGameEndReason := none
  fen : String := START_FEN
  san : List String := []
  uci : List String := []
  thinking : Option ChessColor := none
  queued : Bool := false
  strikes : BySide Nat := { w := 0, b := 0 }
  lastNote : Option String := none
  startedAt : Option String := none
  finishedAt : Option String := none
  stats : Option (BySide SideStats) := none
  deriving DecidableEq

def newGame (id : String) (round : Nat) (white : String) (black : Option String) : ChessGame :=
  { id, round, white, black }

inductive ChessFormat where
  | swiss | roundRobin
  deriving DecidableEq

inductive ChessTournamentStatus where
  | running | stopped | interrupted | completed
  deriving DecidableEq

structure ChessTournamentSettings where
  format : ChessFormat
  rounds : Nat
  moveTimeoutMs : ℚ
  maxPlies : Nat
  concurrency : Nat
  deriving DecidableEq

structure ChessTournamentState where
  id : String
  status : ChessTournamentStatus := .running
  createdAt : String
  updatedAt : String
  completedAt : Option String := none
  settings : ChessTournamentSettings
  contestants : List String
  standings : List ChessStanding
  round : Nat
  totalRounds : Nat
  games : List ChessGame
  error : Option String := none
  deriving DecidableEq

/-- `[order[0], order[size - 1], ...order.slice(1, size - 1)]` -/
def rotateOrder {A : Type} (order : List A) : List A :=
  order.take 1 ++ order.drop (order.length - 1) ++ (order.take (order.length - 1)).drop 1

/-- The pairs of one round; a missing player, or an empty id, plays nobody. -/
def roundPairs (round : Nat) (order : List (Option String)) : List (String × String) :=
  (List.range (order.length / 2)).filterMap fun index =>
    match order[index]?, order[order.length - 1 - index]? with
    | some (some left), some (some right) =>
      if left = "" ∨ right = "" then none
      else some (if (index + round) % 2 = 0 then (left, right) else (right, left))
    | _, _ => none

def scheduleFrom : Nat → Nat → List (Option String) → List (List (String × String))
  | 0, _, _ => []
  | count + 1, round, order => roundPairs round order :: scheduleFrom count (round + 1) (rotateOrder order)

def roundRobinRing (ids : List String) : List (Option String) :=
  if ids.length % 2 = 1 then ids.map some ++ [none] else ids.map some

def roundRobinSchedule (ids : List String) : List (List (String × String)) :=
  let ring := roundRobinRing ids
  scheduleFrom (ring.length - 1) 0 ring

def pairKey (left right : String) : String :=
  if textLess left right then left ++ "|" ++ right else right ++ "|" ++ left

/-- The order of the players before pairing; ties of all four keep the order they had. -/
def rankedBefore (tiebreak : String → Nat) (left right : ChessStanding) : Bool :=
  ((compare right.points left.points).then ((compare right.elo left.elo).then
    ((compare (tiebreak left.id) (tiebreak right.id)).then (compare left.seed right.seed)))).isLE

def rankStandings (tiebreak : String → Nat) (standings : List ChessStanding) : List ChessStanding :=
  standings.insertionSort fun left right => rankedBefore tiebreak left right = true

def PAIRING_BUDGET : Int := 50000

/-- The opponents of `first` one after the other: those passed over, those left, and the tries left. -/
def tryOpponents (solve : List String → Int → Option (List (String × String)) × Int) (played : List String)
    (first : String) : List String → List String → Int → Option (List (String × String)) × Int
  | _, [], budget => (none, budget)
  | before, second :: after, budget =>
    if budget - 1 < 0 then (none, budget - 1)
    else if pairKey first second ∈ played then tryOpponents solve played first (before ++ [second]) after (budget - 1)
    else
      match solve (before ++ after) (budget - 1) with
      | (some tail, left) => (some ((first, second) :: tail), left)
      | (none, left) => tryOpponents solve played first (before ++ [second]) after left

/-- `solve`, for lists of at most this length. -/
def solveWithin (played : List String) : Nat → List String → Int → Option (List (String × String)) × Int
  | _, [], budget => (some [], budget)
  | 0, _ :: _, budget => (none, budget)
  | fuel + 1, first :: rest, budget => tryOpponents (solveWithin played fuel) played first [] rest budget

def solve (played : List String) (list : List String) : Option (List (String × String)) × Int :=
  solveWithin played list.length list PAIRING_BUDGET

/-- Each with the next: the pairing when the search found none. -/
def adjacentPairs : List String → List (String × String)
  | first :: second :: rest => (first, second) :: adjacentPairs rest
  | _ => []

structure Pairings where
  pairs : List (String × String)
  bye : Option String
  deriving DecidableEq

def standingOf (standings : List ChessStanding) (id : String) : Option ChessStanding :=
  standings.find? fun standing => standing.id = id

/-- White games less black games. -/
def balance (standings : List ChessStanding) (id : String) : Int :=
  match standingOf standings id with
  | some standing => (standing.whiteGames : Int) - standing.blackGames
  | none => 0

def colored (standings : List ChessStanding) (round : Nat) (pair : String × String) : String × String :=
  let higher := balance standings pair.1
  let lower := balance standings pair.2
  if higher < lower then (pair.1, pair.2)
  else if higher > lower then (pair.2, pair.1)
  else if round % 2 = 1 then (pair.1, pair.2) else (pair.2, pair.1)

/-- The lowest-ranked player without a bye, or the last. -/
def chooseBye (ranked : List ChessStanding) : Option String :=
  if ranked.length % 2 = 1 then
    match ranked.reverse.find? fun standing => standing.byes = 0 with
    | some standing => some standing.id
    | none => ranked.getLast?.map ChessStanding.id
  else none

def pairingPool (ranked : List ChessStanding) : List String :=
  (ranked.map ChessStanding.id).filter fun id => chooseBye ranked ≠ some id

def swissPairings (standings : List ChessStanding) (played : List String) (round : Nat) (tiebreak : String → Nat) :
    Pairings :=
  let ranked := rankStandings tiebreak standings
  let pool := pairingPool ranked
  { bye := chooseBye ranked
    pairs := ((solve played pool).1.getD (adjacentPairs pool)).map (colored standings round) }

def firstUnit (c : Char) : UInt32 := ((unitsOf c.toNat).headD 0).toUInt32

def stableHash (text : String) : UInt32 :=
  text.toList.foldl (fun value c => (value ^^^ firstUnit c) * 16777619) 2166136261

def playedKeys (games : List ChessGame) : List String :=
  games.filterMap fun game => game.black.map (pairKey game.white)

def nextPairings (state : ChessTournamentState) : Pairings :=
  swissPairings state.standings (playedKeys state.games) (state.round + 1)
    fun id => (stableHash (state.id ++ ":" ++ id)).toNat

def recomputeBuchholz (standings : List ChessStanding) : List ChessStanding :=
  standings.map fun standing =>
    { standing with
      buchholz := (standing.opponents.map fun id => ((standingOf standings id).map ChessStanding.points).getD 0).sum }

def updateStanding (standings : List ChessStanding) (id : String) (change : ChessStanding → ChessStanding) :
    List ChessStanding :=
  standings.map fun standing => if standing.id = id then change standing else standing

def roundGames (round : Nat) (pairs : List (String × String)) : List ChessGame :=
  pairs.mapIdx fun index pair =>
    newGame ("r" ++ toString round ++ "-g" ++ toString (index + 1)) round pair.1 (some pair.2)

def byeGame (round : Nat) (bye : String) (now : String) : ChessGame :=
  { newGame ("r" ++ toString round ++ "-bye") round bye none with
    status := .finished
    result := some .whiteWins
    reason := some .bye
    finishedAt := some now }

def pairNextSwissRound (state : ChessTournamentState) (now : String) : ChessTournamentState :=
  let round := state.round + 1
  let pairings := nextPairings state
  let paired := state.games ++ roundGames round pairings.pairs
  match pairings.bye with
  | some bye =>
    { state with
      games := paired ++ [byeGame round bye now]
      standings := recomputeBuchholz (updateStanding state.standings bye fun standing =>
        { standing with points := standing.points + 1, byes := standing.byes + 1 })
      round := round }
  | none => { state with games := paired, round := round }

/-- `isChessContestantId`: a name, `@` and an effort. -/
def isChessContestantId (value : String) : Bool :=
  match value.toList.span fun c => c ≠ '@' with
  | (head :: name, '@' :: effort) =>
    head.isAlphanum && name.length ≤ 199 && (name.all fun c => c.isAlphanum || "._:/+-".toList.contains c) &&
      1 ≤ effort.length && effort.length ≤ 40 && effort.all fun c => c.isAlphanum || "._-".toList.contains c
  | _ => false

def startState (settings : ChessTournamentSettings) (ids : List String) (id createdAt : String) : ChessTournamentState :=
  let schedule := roundRobinSchedule ids
  let roundRobin := settings.format = .roundRobin
  { id
    createdAt
    updatedAt := createdAt
    settings
    contestants := ids
    standings := ids.mapIdx fun seed id => emptyStanding id seed
    round := if roundRobin then schedule.length else 0
    totalRounds := if roundRobin then schedule.length else settings.rounds
    games := if roundRobin then (schedule.mapIdx fun index pairs => roundGames (index + 1) pairs).flatten else [] }

end SpaceApp.Chess
