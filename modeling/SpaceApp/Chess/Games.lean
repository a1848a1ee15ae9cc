import SpaceApp.Chess.Rules

/-! One game of a tournament (`playGame`): taking it up, its moves and its end.

The choice of a move (`chooseMove`) is its result: a legal move, and why it was not the model's where it is random.
-/

set_option autoImplicit false

namespace SpaceApp.Chess

def MAX_STRIKES : Nat := 3
def ADJUDICATION_MARGIN : Int := 3

/-- How often each position has occurred. -/
abbrev Seen := String → Option Nat

def Seen.bump (seen : Seen) (key : String) : Seen := Function.update seen key (some ((seen key).getD 0 + 1))

/-- The locals of `playGame`. -/
structure Live where
  position : ChessPosition
  seen : Seen

def startLive : Live where
  position := startPosition
  seen := Function.update (fun _ => none) (positionKey startPosition) (some 1)

def Live.after (live : Live) (move : ChessMove) : Live :=
  let position := makeMove live.position move
  { position, seen := live.seen.bump (positionKey position) }

def emptySideStats : BySide SideStats := { w := {}, b := {} }

def resetGame (game : ChessGame) : ChessGame := newGame game.id game.round game.white game.black

def pauseGame (game : ChessGame) : ChessGame := { game with status := .pending, thinking := none, queued := false }

def replayFrom : Live → List String → Option Live
  | live, [] => some live
  | live, uci :: rest =>
    match (legalMoves live.position).find? fun candidate => moveToUci candidate = uci with
    | some move => replayFrom (live.after move) rest
    | none => none

def replayGame (game : ChessGame) : Option Live :=
  match replayFrom startLive game.uci with
  | some live => if game.san.length = game.uci.length then some live else none
  | none => none

def resumedLive (game : ChessGame) : Option Live := if 0 < game.uci.length then replayGame game else none

def beginGame (game : ChessGame) (now : String) : ChessGame :=
  let kept := if (resumedLive game).isSome then game else resetGame game
  { kept with
    stats := some (kept.stats.getD emptySideStats)
    status := .running
    startedAt := some (kept.startedAt.getD now) }

def adjudicated (position : ChessPosition) : ChessResult :=
  if materialBalance position ≥ ADJUDICATION_MARGIN then .whiteWins
  else if materialBalance position ≤ -ADJUDICATION_MARGIN then .blackWins
  else .draw

def loopHead (maxPlies : Nat) (game : ChessGame) (live : Live) : Option (ChessResult × ChessGameEndReason) :=
  match gameOutcome live.position ((live.seen (positionKey live.position)).getD 1) (legalMoves live.position) with
  | some outcome => some outcome
  | none => if maxPlies ≤ game.uci.length then some (adjudicated live.position, .adjudication) else none

structure Choice where
  move : ChessMove
  fallback : Option String
  illegal : Nat
  latencyMs : ℚ
  tokens : ℚ
  deriving DecidableEq

def SideStats.count (stats : SideStats) (choice : Choice) : SideStats where
  modelMoves := if choice.fallback.isNone then stats.modelMoves + 1 else stats.modelMoves
  illegalReplies := stats.illegalReplies + choice.illegal
  fallbackMoves := if choice.fallback.isSome then stats.fallbackMoves + 1 else stats.fallbackMoves
  totalLatencyMs := stats.totalLatencyMs + choice.latencyMs
  tokens := stats.tokens + choice.tokens

def sideName : ChessColor → String
  | .w => "White"
  | .b => "Black"

def noteChoice (game : ChessGame) (side : ChessColor) (choice : Choice) : ChessGame :=
  let stats := game.stats.getD emptySideStats
  let counted := { game with stats := some (stats.set side ((stats.get side).count choice)) }
  match choice.fallback with
  | some failure =>
    let strikes := game.strikes.get side + 1
    { counted with
      strikes := game.strikes.set side strikes
      lastNote := some (sideName side ++ " " ++ failure ++ ": random legal move (strike " ++ toString strikes ++ "/" ++
        toString MAX_STRIKES ++ ")") }
  | none => counted

/-- The third random move is one too many. -/
def forfeits (game : ChessGame) (side : ChessColor) (choice : Choice) : Bool :=
  choice.fallback.isSome && MAX_STRIKES ≤ (noteChoice game side choice).strikes.get side

def forfeitResult (side : ChessColor) : ChessResult := if side = .w then .blackWins else .whiteWins

def pushMove (game : ChessGame) (live : Live) (move : ChessMove) : ChessGame :=
  { game with
    san := game.san ++ [moveToSan live.position move (legalMoves live.position)]
    uci := game.uci ++ [moveToUci move]
    fen := toFen (makeMove live.position move) }

def endGame (game : ChessGame) (result : ChessResult) (reason : ChessGameEndReason) (now : String) : ChessGame :=
  { game with
    status := .finished
    result := some result
    reason := some reason
    thinking := none
    queued := false
    finishedAt := some now
    stats := none }

@[simp]
theorem noteChoice_uci (game : ChessGame) (side : ChessColor) (choice : Choice) :
    (noteChoice game side choice).uci = game.uci ∧ (noteChoice game side choice).san = game.san := by
  unfold noteChoice
  split <;> exact ⟨rfl, rfl⟩

end SpaceApp.Chess
