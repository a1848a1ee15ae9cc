import SpaceApp.Chess.Tournament

/-! The rules of chess (`chess-rules.ts`): squares by rank and file, the moves of a position, what a move makes of it,
and the ends of a game. An empty square is `none`; `findMoveInText` only picks among the legal moves and is left out.
-/

set_option autoImplicit false

namespace SpaceApp.Chess

inductive PieceKind where
  | p | n | b | r | q | k
  deriving DecidableEq

structure Piece where
  color : ChessColor
  kind : PieceKind
  deriving DecidableEq

def PieceKind.lower : PieceKind → String
  | .p => "p"
  | .n => "n"
  | .b => "b"
  | .r => "r"
  | .q => "q"
  | .k => "k"

def PieceKind.upper : PieceKind → String
  | .p => "P"
  | .n => "N"
  | .b => "B"
  | .r => "R"
  | .q => "Q"
  | .k => "K"

def Piece.letter (piece : Piece) : String :=
  match piece.color with
  | .w => piece.kind.upper
  | .b => piece.kind.lower

def opposite : ChessColor → ChessColor
  | .w => .b
  | .b => .w

/-- The rights of `KQkq`, in that order. -/
structure Castling where
  whiteKing : Bool
  whiteQueen : Bool
  blackKing : Bool
  blackQueen : Bool
  deriving DecidableEq

def Castling.text (rights : Castling) : String :=
  (if rights.whiteKing then "K" else "") ++ (if rights.whiteQueen then "Q" else "") ++
    (if rights.blackKing then "k" else "") ++ if rights.blackQueen then "q" else ""

abbrev Board := List (Option Piece)

def Board.piece (board : Board) (square : Nat) : Option Piece := (board[square]?).join

structure ChessPosition where
  board : Board
  turn : ChessColor
  castling : Castling
  ep : Option Nat
  halfmove : Nat
  fullmove : Nat
  deriving DecidableEq

inductive CastleSide where
  | king | queen
  deriving DecidableEq

structure ChessMove where
  from_ : Nat
  to_ : Nat
  piece : Piece
  captured : Option Piece := none
  promotion : Option PieceKind := none
  castle : Option CastleSide := none
  enPassant : Bool := false
  deriving DecidableEq

def FILES : List String := ["a", "b", "c", "d", "e", "f", "g", "h"]

def KNIGHT_STEPS : List (Int × Int) := [(1, 2), (2, 1), (2, -1), (1, -2), (-1, -2), (-2, -1), (-2, 1), (-1, 2)]
def KING_STEPS : List (Int × Int) := [(1, 0), (1, 1), (0, 1), (-1, 1), (-1, 0), (-1, -1), (0, -1), (1, -1)]
def BISHOP_DIRS : List (Int × Int) := [(1, 1), (1, -1), (-1, 1), (-1, -1)]
def ROOK_DIRS : List (Int × Int) := [(1, 0), (-1, 0), (0, 1), (0, -1)]
def PROMOTIONS : List PieceKind := [.q, .r, .b, .n]

/-- `square & 7` and `square >> 3` -/
def fileOf (square : Nat) : Int := (square % 8 : Nat)
def rankOf (square : Nat) : Int := (square / 8 : Nat)

def squareAt (file rank : Int) : Option Nat :=
  if 0 ≤ file ∧ file < 8 ∧ 0 ≤ rank ∧ rank < 8 then some (rank * 8 + file).toNat else none

def squareName (square : Nat) : String := FILES.getD (square % 8) "" ++ toString (square / 8 + 1)

/-- The row of a rank from its squares on, after so many empty ones. -/
def fenRow : Nat → Board → String
  | empty, [] => if empty = 0 then "" else toString empty
  | empty, none :: rest => fenRow (empty + 1) rest
  | empty, some piece :: rest => (if empty = 0 then "" else toString empty) ++ piece.letter ++ fenRow 0 rest

def fenBoard (board : Board) : String :=
  "/".intercalate ((List.range 8).reverse.map fun rank => fenRow 0 ((board.drop (rank * 8)).take 8))

def turnText : ChessColor → String
  | .w => "w"
  | .b => "b"

def castlingText (rights : Castling) : String := if rights.text = "" then "-" else rights.text

def epText (ep : Option Nat) : String := (ep.map squareName).getD "-"

def toFen (position : ChessPosition) : String :=
  " ".intercalate [fenBoard position.board, turnText position.turn, castlingText position.castling, epText position.ep,
    toString position.halfmove, toString position.fullmove]

def backRank (color : ChessColor) : Board :=
  [.r, .n, .b, .q, .k, .b, .n, .r].map fun kind => some { color, kind }

def startPosition : ChessPosition where
  board := backRank .w ++ List.replicate 8 (some { color := .w, kind := .p }) ++ List.replicate 32 none ++
    List.replicate 8 (some { color := .b, kind := .p }) ++ backRank .b
  turn := .w
  castling := { whiteKing := true, whiteQueen := true, blackKing := true, blackQueen := true }
  ep := none
  halfmove := 0
  fullmove := 1

/-- Whether a slide from the square, from the given step on, first meets one of the pieces. -/
def slideMeets (board : Board) (square : Nat) (df dr : Int) (pieces : List Piece) : Nat → Int → Bool
  | 0, _ => false
  | steps + 1, step =>
    match squareAt (fileOf square + df * step) (rankOf square + dr * step) with
    | none => false
    | some target =>
      match board.piece target with
      | none => slideMeets board square df dr pieces steps (step + 1)
      | some piece => pieces.contains piece

def stepMeets (board : Board) (square : Nat) (piece : Piece) (step : Int × Int) : Bool :=
  match squareAt (fileOf square + step.1) (rankOf square + step.2) with
  | none => false
  | some target => board.piece target == some piece

def isSquareAttacked (board : Board) (square : Nat) (by_ : ChessColor) : Bool :=
  -- a white pawn attacks upwards, so it stands one rank below
  let pawnRank : Int := if by_ = .w then -1 else 1
  [(-1, pawnRank), (1, pawnRank)].any (stepMeets board square { color := by_, kind := .p }) ||
  KNIGHT_STEPS.any (stepMeets board square { color := by_, kind := .n }) ||
  KING_STEPS.any (stepMeets board square { color := by_, kind := .k }) ||
  BISHOP_DIRS.any (fun dir => slideMeets board square dir.1 dir.2
    [{ color := by_, kind := .b }, { color := by_, kind := .q }] 7 1) ||
  ROOK_DIRS.any fun dir => slideMeets board square dir.1 dir.2
    [{ color := by_, kind := .r }, { color := by_, kind := .q }] 7 1

def isInCheck (position : ChessPosition) (color : ChessColor) : Bool :=
  match position.board.findIdx? fun piece => piece = some { color, kind := .k } with
  | some king => isSquareAttacked position.board king (opposite color)
  | none => false

def addPawnMove (move : ChessMove) : List ChessMove :=
  if rankOf move.to_ = 0 ∨ rankOf move.to_ = 7 then PROMOTIONS.map fun promotion => { move with promotion := some promotion }
  else [move]

def pawnDir (color : ChessColor) : Int := if color = .w then 1 else -1

def pawnAdvances (position : ChessPosition) (from_ : Nat) (piece : Piece) : List ChessMove :=
  let dir := pawnDir position.turn
  match squareAt (fileOf from_) (rankOf from_ + dir) with
  | none => []
  | some one =>
    if position.board.piece one = none then
      addPawnMove { from_, to_ := one, piece } ++
        match squareAt (fileOf from_) (rankOf from_ + 2 * dir) with
        | some two =>
          if rankOf from_ = (if position.turn = .w then 1 else 6) ∧ position.board.piece two = none then
            [{ from_, to_ := two, piece }]
          else []
        | none => []
    else []

def pawnCaptures (position : ChessPosition) (from_ : Nat) (piece : Piece) (df : Int) : List ChessMove :=
  match squareAt (fileOf from_ + df) (rankOf from_ + pawnDir position.turn) with
  | none => []
  | some to_ =>
    match position.board.piece to_ with
    | some target =>
      if target.color = opposite position.turn then addPawnMove { from_, to_, piece, captured := some target } else []
    | none =>
      if position.ep = some to_ then
        [{
          from_
          to_
          piece
          captured := some { color := opposite position.turn, kind := .p }
          enPassant := true }]
      else []

def plainMove (position : ChessPosition) (from_ : Nat) (piece : Piece) (to_ : Nat) : List ChessMove :=
  match position.board.piece to_ with
  | none => [{ from_, to_, piece }]
  | some target => if target.color = opposite position.turn then [{ from_, to_, piece, captured := some target }] else []

def stepMoves (position : ChessPosition) (from_ : Nat) (piece : Piece) (steps : List (Int × Int)) : List ChessMove :=
  steps.flatMap fun step =>
    match squareAt (fileOf from_ + step.1) (rankOf from_ + step.2) with
    | none => []
    | some to_ => plainMove position from_ piece to_

def slideMoves (position : ChessPosition) (from_ : Nat) (piece : Piece) (df dr : Int) : Nat → Int → List ChessMove
  | 0, _ => []
  | steps + 1, step =>
    match squareAt (fileOf from_ + df * step) (rankOf from_ + dr * step) with
    | none => []
    | some to_ =>
      plainMove position from_ piece to_ ++
        if position.board.piece to_ = none then slideMoves position from_ piece df dr steps (step + 1) else []

def castleMoves (position : ChessPosition) (from_ : Nat) (piece : Piece) : List ChessMove :=
  let turn := position.turn
  let home := if turn = .w then 4 else 60
  let enemy := opposite turn
  let empty := fun square => position.board.piece square = none
  let rook := some { color := turn, kind := .r }
  if from_ = home ∧ isSquareAttacked position.board home enemy = false then
    (if (if turn = .w then position.castling.whiteKing else position.castling.blackKing) = true ∧
        empty (home + 1) ∧ empty (home + 2) ∧ position.board.piece (home + 3) = rook ∧
        isSquareAttacked position.board (home + 1) enemy = false ∧
        isSquareAttacked position.board (home + 2) enemy = false then
      [{ from_, to_ := home + 2, piece, castle := some .king }]
    else []) ++
    if (if turn = .w then position.castling.whiteQueen else position.castling.blackQueen) = true ∧
        empty (home - 1) ∧ empty (home - 2) ∧ empty (home - 3) ∧ position.board.piece (home - 4) = rook ∧
        isSquareAttacked position.board (home - 1) enemy = false ∧
        isSquareAttacked position.board (home - 2) enemy = false then
      [{ from_, to_ := home - 2, piece, castle := some .queen }]
    else []
  else []

def movesFrom (position : ChessPosition) (from_ : Nat) : List ChessMove :=
  match position.board.piece from_ with
  | none => []
  | some piece =>
    if piece.color ≠ position.turn then []
    else
      match piece.kind with
      | .p => pawnAdvances position from_ piece ++ [-1, 1].flatMap (pawnCaptures position from_ piece)
      | .n => stepMoves position from_ piece KNIGHT_STEPS
      | .k => stepMoves position from_ piece KING_STEPS ++ castleMoves position from_ piece
      | .b => BISHOP_DIRS.flatMap fun dir => slideMoves position from_ piece dir.1 dir.2 7 1
      | .r => ROOK_DIRS.flatMap fun dir => slideMoves position from_ piece dir.1 dir.2 7 1
      | .q => (BISHOP_DIRS ++ ROOK_DIRS).flatMap fun dir => slideMoves position from_ piece dir.1 dir.2 7 1

def pseudoLegalMoves (position : ChessPosition) : List ChessMove := (List.range 64).flatMap (movesFrom position)

def Board.put (board : Board) (index : Int) (piece : Option Piece) : Board :=
  if 0 ≤ index then board.set index.toNat piece else board

/-- `CORNER_RIGHTS`: a corner that is left or taken loses its right. -/
def Castling.touch (rights : Castling) (square : Nat) : Castling :=
  if square = 0 then { rights with whiteQueen := false }
  else if square = 7 then { rights with whiteKing := false }
  else if square = 56 then { rights with blackQueen := false }
  else if square = 63 then { rights with blackKing := false }
  else rights

def Castling.kingMoved (rights : Castling) (piece : Option Piece) : Castling :=
  if piece = some { color := .w, kind := .k } then { rights with whiteKing := false, whiteQueen := false }
  else if piece = some { color := .b, kind := .k } then { rights with blackKing := false, blackQueen := false }
  else rights

def movedBoard (position : ChessPosition) (move : ChessMove) : Board :=
  let piece := position.board.piece move.from_
  let lifted := position.board.put move.from_ none
  let passed := if move.enPassant then lifted.put (move.to_ - 8 * pawnDir position.turn) none else lifted
  let placed := passed.put move.to_
    (match move.promotion with
    | some kind => some { color := position.turn, kind }
    | none => piece)
  match move.castle with
  | some .king => (placed.put (move.from_ + 1) (placed.piece (move.from_ + 3))).put (move.from_ + 3) none
  | some .queen => (placed.put (move.from_ - 1) (placed.piece (move.from_ - 4))).put (move.from_ - 4) none
  | none => placed

def makeMove (position : ChessPosition) (move : ChessMove) : ChessPosition :=
  let piece := position.board.piece move.from_
  let isPawn := piece.map Piece.kind = some .p
  { board := movedBoard position move
    turn := opposite position.turn
    castling := ((position.castling.kingMoved piece).touch move.from_).touch move.to_
    ep :=
      if isPawn ∧ ((move.to_ : Int) - move.from_).natAbs = 16 then some (move.from_ + 8 * pawnDir position.turn).toNat
      else none
    halfmove := if isPawn ∨ move.captured.isSome then 0 else position.halfmove + 1
    fullmove := if position.turn = .b then position.fullmove + 1 else position.fullmove }

def legalMoves (position : ChessPosition) : List ChessMove :=
  (pseudoLegalMoves position).filter fun move => !isInCheck (makeMove position move) position.turn

def moveToUci (move : ChessMove) : String :=
  squareName move.from_ ++ squareName move.to_ ++ (move.promotion.map PieceKind.lower).getD ""

def disambiguation (move : ChessMove) (legal : List ChessMove) : String :=
  let rivals := legal.filter fun other => other.piece = move.piece ∧ other.to_ = move.to_ ∧ other.from_ ≠ move.from_
  if rivals = [] then ""
  else if ¬rivals.any fun other => fileOf other.from_ = fileOf move.from_ then FILES.getD (move.from_ % 8) ""
  else if ¬rivals.any fun other => rankOf other.from_ = rankOf move.from_ then toString (move.from_ / 8 + 1)
  else squareName move.from_

def plainSan (move : ChessMove) (legal : List ChessMove) : String :=
  match move.castle with
  | some .king => "O-O"
  | some .queen => "O-O-O"
  | none =>
    match move.piece.kind with
    | .p =>
      (if move.captured.isSome then FILES.getD (move.from_ % 8) "" ++ "x" ++ squareName move.to_ else squareName move.to_) ++
        ((move.promotion.map fun kind => "=" ++ kind.upper).getD "")
    | kind =>
      kind.upper ++ disambiguation move legal ++ (if move.captured.isSome then "x" else "") ++ squareName move.to_

def moveToSan (position : ChessPosition) (move : ChessMove) (legal : List ChessMove) : String :=
  let next := makeMove position move
  plainSan move legal ++
    if isInCheck next next.turn then if (legalMoves next).length = 0 then "#" else "+" else ""

/-- Repetition identity: board, side, castling rights and a usable en passant square. -/
def positionKey (position : ChessPosition) : String :=
  let epUsable := position.ep.isSome ∧ (pseudoLegalMoves position).any ChessMove.enPassant
  " ".intercalate [fenBoard position.board, turnText position.turn, castlingText position.castling,
    if epUsable then epText position.ep else "-"]

def officers (board : Board) : List (PieceKind × Nat) :=
  board.zipIdx.filterMap fun entry =>
    match entry.1 with
    | some piece => if piece.kind = .k then none else some (piece.kind, entry.2)
    | none => none

def shade (square : Nat) : Nat := (square % 8 + square / 8) % 2

def hasInsufficientMaterial (position : ChessPosition) : Bool :=
  match officers position.board with
  | [] => true
  | first :: rest =>
    if (first :: rest).any fun piece => piece.1 = .p ∨ piece.1 = .r ∨ piece.1 = .q then false
    else if rest = [] then true
    else (first :: rest).all (fun piece => piece.1 = .b) && (first :: rest).all fun piece => shade piece.2 = shade first.2

def PieceKind.value : PieceKind → Int
  | .p => 1
  | .n => 3
  | .b => 3
  | .r => 5
  | .q => 9
  | .k => 0

def materialBalance (position : ChessPosition) : Int :=
  (position.board.map fun square =>
    match square with
    | some piece => if piece.color = .w then piece.kind.value else -piece.kind.value
    | none => 0).sum

def gameOutcome (position : ChessPosition) (repetitions : Nat) (legal : List ChessMove) :
    Option (ChessResult × ChessGameEndReason) :=
  if legal.length = 0 then
    if isInCheck position position.turn then some (if position.turn = .w then .blackWins else .whiteWins, .checkmate)
    else some (.draw, .stalemate)
  else if hasInsufficientMaterial position then some (.draw, .insufficientMaterial)
  else if 3 ≤ repetitions then some (.draw, .threefold)
  else if 100 ≤ position.halfmove then some (.draw, .fiftyMove)
  else none

end SpaceApp.Chess
