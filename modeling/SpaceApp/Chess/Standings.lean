import Mathlib.Algebra.BigOperators.Group.Finset.Basic
import Mathlib.Data.Multiset.AddSub
import SpaceApp.Chess.Games

/-! Booking a finished game in the standings (`finishGame`), and the standings that a list of finished games comes to.

The rating after a game is a floating-point number and stands as a parameter.
-/

set_option autoImplicit false

namespace SpaceApp.Chess

def whiteScore : ChessResult → ℚ
  | .whiteWins => 1
  | .blackWins => 0
  | .draw => 1 / 2

def bookSide (rating : ℚ → ℚ → ℚ → ℚ) (score : ℚ) (opponent : String) (side : ChessColor) (own other : ℚ)
    (stats : SideStats) (forfeited : Bool) (standing : ChessStanding) : ChessStanding :=
  { standing with
    points := standing.points + score
    games := standing.games + 1
    wins := if score = 1 then standing.wins + 1 else standing.wins
    losses := if score = 0 then standing.losses + 1 else standing.losses
    draws := if score = 1 ∨ score = 0 then standing.draws else standing.draws + 1
    whiteGames := if side = .w then standing.whiteGames + 1 else standing.whiteGames
    blackGames := if side = .w then standing.blackGames else standing.blackGames + 1
    opponents := standing.opponents ++ [opponent]
    elo := rating own other score
    modelMoves := standing.modelMoves + stats.modelMoves
    illegalReplies := standing.illegalReplies + stats.illegalReplies
    fallbackMoves := standing.fallbackMoves + stats.fallbackMoves
    totalLatencyMs := standing.totalLatencyMs + stats.totalLatencyMs
    tokens := standing.tokens + stats.tokens
    forfeits := if forfeited then standing.forfeits + 1 else standing.forfeits }

/-- The standings after a game; `none` where one of the players has no standing. -/
def bookResult (rating : ℚ → ℚ → ℚ → ℚ) (standings : List ChessStanding) (white black : String) (result : ChessResult)
    (stats : BySide SideStats) (forfeitedBy : Option ChessColor) : Option (List ChessStanding) :=
  match standingOf standings white, standingOf standings black with
  | some first, some second =>
    let score := whiteScore result
    let whites := updateStanding standings white
      (bookSide rating score second.id .w first.elo second.elo stats.w (forfeitedBy = some .w))
    let both := updateStanding whites black
      (bookSide rating (1 - score) first.id .b second.elo first.elo stats.b (forfeitedBy = some .b))
    some (recomputeBuchholz both)
  | _, _ => none

/-- Points, wins, draws and losses; byes, games, white and black games; the moves' statistics; the opponents. -/
abbrev Tally := (ℚ × ℕ × ℕ × ℕ) × (ℕ × ℕ × ℕ × ℕ) × (ℕ × ℕ × ℕ × ℚ × ℚ) × Multiset String

def ChessStanding.tally (standing : ChessStanding) : Tally :=
  ((standing.points, standing.wins, standing.draws, standing.losses),
    (standing.byes, standing.games, standing.whiteGames, standing.blackGames),
    (standing.modelMoves, standing.illegalReplies, standing.fallbackMoves, standing.totalLatencyMs, standing.tokens),
    standing.opponents)

def sideTally (score : ℚ) (opponent : String) (side : ChessColor) (stats : SideStats) : Tally :=
  ((score, if score = 1 then 1 else 0, if score = 1 ∨ score = 0 then 0 else 1, if score = 0 then 1 else 0),
    (0, 1, if side = .w then 1 else 0, if side = .w then 0 else 1),
    (stats.modelMoves, stats.illegalReplies, stats.fallbackMoves, stats.totalLatencyMs, stats.tokens),
    {opponent})

/-- A bye is one point, and no game. -/
def byeTally : Tally := ((1, 0, 0, 0), (1, 0, 0, 0), (0, 0, 0, 0, 0), 0)

/-- What a finished game is for a player, given the statistics of its moves. -/
def gameTally (id white : String) (black : Option String) (result : ChessResult) (stats : BySide SideStats) : Tally :=
  match black with
  | none => if white = id then byeTally else 0
  | some black =>
    (if white = id then sideTally (whiteScore result) black .w stats.w else 0) +
      if black = id then sideTally (1 - whiteScore result) white .b stats.b else 0

/-- Every standing's buchholz is the points its opponents have. -/
def BuchholzRight (standings : List ChessStanding) : Prop :=
  ∀ standing ∈ standings,
    standing.buchholz = (standing.opponents.map fun id => ((standingOf standings id).map ChessStanding.points).getD 0).sum

section

variable {standings : List ChessStanding}

theorem standingOf_map {change : ChessStanding → ChessStanding} (names : ∀ standing, (change standing).id = standing.id)
    (id : String) : standingOf (standings.map change) id = (standingOf standings id).map change := by
  induction standings with
  | nil => rfl
  | cons first rest ih =>
    simp only [standingOf, List.map_cons, List.find?_cons, names] at ih ⊢
    split
    · rfl
    · exact ih

theorem standingOf_some {id : String} {standing : ChessStanding} (found : standingOf standings id = some standing) :
    standing ∈ standings ∧ standing.id = id :=
  ⟨List.mem_of_find?_eq_some found, by simpa using List.find?_some found⟩

theorem standingOf_isSome {id : String} (inside : id ∈ standings.map ChessStanding.id) :
    ∃ standing, standingOf standings id = some standing := by
  obtain ⟨standing, there, same⟩ := List.mem_map.mp inside
  refine Option.isSome_iff_exists.mp (List.find?_isSome.mpr ⟨standing, there, ?_⟩)
  simpa using same

theorem standingOf_points {change : ChessStanding → ChessStanding} (names : ∀ standing, (change standing).id = standing.id)
    (points : ∀ standing, (change standing).points = standing.points) (id : String) :
    (standingOf (standings.map change) id).map ChessStanding.points = (standingOf standings id).map ChessStanding.points := by
  rw [standingOf_map names, Option.map_map]
  congr 1
  funext standing
  exact points standing

theorem recomputeBuchholz_right (standings : List ChessStanding) : BuchholzRight (recomputeBuchholz standings) := by
  intro standing inside
  obtain ⟨old, -, rfl⟩ := List.mem_map.mp inside
  simp only
  congr 1
  refine List.map_congr_left fun id _ => ?_
  have same : (standingOf (recomputeBuchholz standings) id).map ChessStanding.points =
      (standingOf standings id).map ChessStanding.points := by
    rw [recomputeBuchholz]
    apply standingOf_points <;> intro <;> rfl
  rw [same]

theorem recomputeBuchholz_tally (standings : List ChessStanding) :
    (recomputeBuchholz standings).map (fun standing => (standing.id, standing.tally)) =
      standings.map fun standing => (standing.id, standing.tally) := by
  rw [recomputeBuchholz, List.map_map]
  rfl

theorem bookSide_tally (rating : ℚ → ℚ → ℚ → ℚ) (score : ℚ) (opponent : String) (side : ChessColor) (own other : ℚ)
    (stats : SideStats) (forfeited : Bool) (standing : ChessStanding) :
    (bookSide rating score opponent side own other stats forfeited standing).tally =
      standing.tally + sideTally score opponent side stats := by
  have opponents : ((standing.opponents ++ [opponent] : List String) : Multiset String) =
      (standing.opponents : Multiset String) + {opponent} := (Multiset.coe_add _ _).symm
  simp only [ChessStanding.tally, bookSide, sideTally, Prod.mk_add_mk, opponents]
  by_cases won : score = 1
  · subst won
    cases side <;> simp
  · by_cases lost : score = 0
    · subst lost
      cases side <;> simp
    · cases side <;> simp [won, lost]

theorem bookResult_tally {rating : ℚ → ℚ → ℚ → ℚ} {white black : String} {result : ChessResult} {stats : BySide SideStats}
    {forfeitedBy : Option ChessColor} {after : List ChessStanding}
    (booked : bookResult rating standings white black result stats forfeitedBy = some after) :
    BuchholzRight after ∧ after.map (fun standing => (standing.id, standing.tally)) =
      standings.map fun standing =>
        (standing.id, standing.tally + gameTally standing.id white (some black) result stats) := by
  unfold bookResult at booked
  split at booked
  · next first second foundWhite foundBlack =>
    obtain ⟨-, whiteId⟩ := standingOf_some foundWhite
    obtain ⟨-, blackId⟩ := standingOf_some foundBlack
    simp only [Option.some.injEq] at booked
    subst booked
    refine ⟨recomputeBuchholz_right _, ?_⟩
    rw [recomputeBuchholz_tally]
    simp only [updateStanding, List.map_map, whiteId, blackId]
    refine List.map_congr_left fun standing _ => ?_
    simp only [Function.comp_def, gameTally, Prod.mk.injEq]
    by_cases isWhite : standing.id = white <;> by_cases isBlack : standing.id = black
    · have own : (bookSide rating (whiteScore result) black .w first.elo second.elo stats.w (forfeitedBy = some .w)
          standing).id = standing.id := rfl
      rw [if_pos isWhite, if_pos (own.trans isBlack), if_pos isWhite.symm, if_pos isBlack.symm, bookSide_tally,
        bookSide_tally, add_assoc]
      exact ⟨rfl, rfl⟩
    · have own : (bookSide rating (whiteScore result) black .w first.elo second.elo stats.w (forfeitedBy = some .w)
          standing).id = standing.id := rfl
      rw [if_pos isWhite, if_neg (fun same => isBlack (own.symm.trans same)), if_pos isWhite.symm,
        if_neg (fun same => isBlack same.symm), bookSide_tally, add_zero]
      exact ⟨rfl, rfl⟩
    · rw [if_neg isWhite, if_pos isBlack, if_neg (fun same => isWhite same.symm), if_pos isBlack.symm, bookSide_tally, zero_add]
      exact ⟨rfl, rfl⟩
    · rw [if_neg isWhite, if_neg isBlack, if_neg (fun same => isWhite same.symm), if_neg (fun same => isBlack same.symm),
        add_zero, add_zero]
      exact ⟨rfl, rfl⟩
  · simp at booked

end

end SpaceApp.Chess
