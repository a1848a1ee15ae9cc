import Mathlib.Data.List.Rotate
import Mathlib.Data.List.ProdSigma
import Mathlib.Data.Nat.ModEq
import Mathlib.Tactic.Ring
import SpaceApp.Chess.Tournament
import SpaceApp.Foundation.Choice

/-! The circle method: in the round-robin schedule every two players meet in exactly one round.

The first player stays, the others rotate. In the round `r` a rotating player `x` of `m` sits at `(x + r) % m`,
and those whose seats add up to `m - 2` meet; with `m` odd that is one round for each two. The colours go by the
board and the round, and against the rotation.
-/

set_option autoImplicit false

namespace SpaceApp.Chess

section

variable {A : Type}

theorem rotateOrder_cons (first : A) (rest : List A) (some_ : rest ≠ []) :
    rotateOrder (first :: rest) = first :: rest.rotate (rest.length - 1) := by
  have last : rest.drop (rest.length - 1) = [rest.getLast some_] := List.drop_length_sub_one some_
  have size : (first :: rest).length - 1 = rest.length - 1 + 1 := by
    have positive := List.length_pos_iff.mpr some_
    simp
    omega
  rw [rotateOrder, size, List.rotate_eq_drop_append_take (by omega)]
  simp [last]

def orderAt (first : A) (rest : List A) (round : Nat) : List A := first :: rest.rotate (round * (rest.length - 1))

theorem rotateOrder_orderAt (first : A) (rest : List A) (some_ : rest ≠ []) (round : Nat) :
    rotateOrder (orderAt first rest round) = orderAt first rest (round + 1) := by
  have turned : rest.rotate (round * (rest.length - 1)) ≠ [] := by simpa using some_
  rw [orderAt, rotateOrder_cons _ _ turned, List.length_rotate, List.rotate_rotate, orderAt, Nat.succ_mul]

theorem scheduleFrom_eq (first : Option String) (rest : List (Option String)) (some_ : rest ≠ []) (count round : Nat) :
    scheduleFrom count round (orderAt first rest round) =
      (List.range count).map fun turn => roundPairs (round + turn) (orderAt first rest (round + turn)) := by
  induction count generalizing round with
  | zero => rfl
  | succ count ih =>
    rw [scheduleFrom, rotateOrder_orderAt first rest some_, ih, List.range_succ_eq_map, List.map_cons, List.map_map,
      Nat.add_zero]
    congr 1
    refine List.map_congr_left fun turn _ => ?_
    simp only [Function.comp, Nat.succ_eq_add_one]
    rw [Nat.add_assoc, Nat.add_comm 1 turn]

/-- The seat of the player at this place of the ring, in this round. -/
def seat (m round place : Nat) : Nat := if place = 0 then 0 else (place - 1 + round) % m + 1

theorem orderAt_seat (first : A) (rest : List A) (some_ : rest ≠ []) (round place : Nat) (inside : place < rest.length + 1) :
    (orderAt first rest round)[seat rest.length round place]? = (first :: rest)[place]? := by
  have positive := List.length_pos_iff.mpr some_
  rcases Nat.eq_zero_or_pos place with rfl | later
  · simp [seat, orderAt]
  · obtain ⟨back, rfl⟩ : ∃ back, place = back + 1 := ⟨place - 1, by omega⟩
    have bound : (back + round) % rest.length < rest.length := Nat.mod_lt _ positive
    simp only [seat, orderAt, Nat.add_one_ne_zero, if_false, Nat.add_sub_cancel, List.getElem?_cons_succ]
    rw [List.getElem?_rotate bound]
    -- going back `round` seats, as many times `m - 1` on
    obtain ⟨m, length⟩ : ∃ m, rest.length = m + 1 := ⟨rest.length - 1, by omega⟩
    rw [length, Nat.add_sub_cancel, Nat.mod_add_mod]
    have whole : back + round + round * m = back + (m + 1) * round := by ring
    rw [whole, Nat.add_mul_mod_self_left, Nat.mod_eq_of_lt (by omega)]

theorem mod_sum_modEq (m round x y : Nat) : (x + round) % m + (y + round) % m ≡ x + y + 2 * round [MOD m] := by
  have sum := (Nat.mod_modEq (x + round) m).add (Nat.mod_modEq (y + round) m)
  have shape : x + round + (y + round) = x + y + 2 * round := by ring
  rwa [shape] at sum

/-- The rotating players `x` and `y` meet in one round. -/
theorem rotating_meet {half x y : Nat} (left : x < 2 * half + 1) (right : y < 2 * half + 1) (apart : x ≠ y) :
    ∃ round < 2 * half + 1, (x + round) % (2 * half + 1) + (y + round) % (2 * half + 1) + 1 = 2 * half ∧
      ∀ other < 2 * half + 1, (x + other) % (2 * half + 1) + (y + other) % (2 * half + 1) + 1 = 2 * half →
        other = round := by
  have positive : 0 < 2 * half + 1 := by omega
  -- `half + 1` halves: twice it is `m + 1`
  let gap := 2 * (2 * half + 1) - 2 - x - y
  let round := gap * (half + 1) % (2 * half + 1)
  have bound : round < 2 * half + 1 := Nat.mod_lt _ positive
  have solves : x + y + 2 * round ≡ 4 * half [MOD 2 * half + 1] := by
    have lowered : 2 * round ≡ 2 * (gap * (half + 1)) [MOD 2 * half + 1] := (Nat.mod_modEq _ _).mul_left 2
    have whole : 2 * (gap * (half + 1)) = gap + (2 * half + 1) * gap := by ring
    have same : 2 * round ≡ gap [MOD 2 * half + 1] := by
      rw [whole] at lowered
      exact lowered.trans (by simp [Nat.ModEq])
    have total : x + y + gap = 4 * half := by omega
    exact total ▸ same.add_left (x + y)
  have sum := (mod_sum_modEq (2 * half + 1) round x y).trans solves
  have first := Nat.mod_lt (x + round) positive
  have second := Nat.mod_lt (y + round) positive
  have differ : (x + round) % (2 * half + 1) ≠ (y + round) % (2 * half + 1) := by
    intro same
    have back := Nat.ModEq.add_right_cancel' round (show Nat.ModEq (2 * half + 1) (x + round) (y + round) from same)
    rw [Nat.ModEq, Nat.mod_eq_of_lt left, Nat.mod_eq_of_lt right] at back
    exact apart back
  have meets : (x + round) % (2 * half + 1) + (y + round) % (2 * half + 1) + 1 = 2 * half := by
    generalize (x + round) % (2 * half + 1) = a at *
    generalize (y + round) % (2 * half + 1) = b at *
    have reduced : (4 * half) % (2 * half + 1) = 2 * half - 1 := by
      rw [Nat.mod_eq_sub_mod (by omega), Nat.mod_eq_of_lt (by omega)]
      omega
    rw [Nat.ModEq, reduced] at sum
    rcases Nat.lt_or_ge (a + b) (2 * half + 1) with small | large
    · rw [Nat.mod_eq_of_lt small] at sum
      omega
    · rw [Nat.mod_eq_sub_mod large, Nat.mod_eq_of_lt (by omega)] at sum
      omega
  refine ⟨round, bound, meets, fun other inside also_ => ?_⟩
  have one := mod_sum_modEq (2 * half + 1) other x y
  have two := mod_sum_modEq (2 * half + 1) round x y
  have equal : (x + other) % (2 * half + 1) + (y + other) % (2 * half + 1) =
      (x + round) % (2 * half + 1) + (y + round) % (2 * half + 1) := by omega
  rw [equal] at one
  have doubled : 2 * other ≡ 2 * round [MOD 2 * half + 1] := Nat.ModEq.add_left_cancel' (x + y) (one.symm.trans two)
  have odd : Nat.gcd (2 * half + 1) 2 = 1 := by simp
  have same := Nat.ModEq.cancel_left_of_coprime odd doubled
  rwa [Nat.ModEq, Nat.mod_eq_of_lt inside, Nat.mod_eq_of_lt bound] at same

/-- Two players of the ring sit opposite each other in one round. -/
theorem opposite_once {half x y : Nat} (left : x < 2 * half + 2) (right : y < 2 * half + 2) (apart : x ≠ y) :
    ∃ round < 2 * half + 1, seat (2 * half + 1) round x + seat (2 * half + 1) round y = 2 * half + 1 ∧
      ∀ other < 2 * half + 1, seat (2 * half + 1) other x + seat (2 * half + 1) other y = 2 * half + 1 →
        other = round := by
  -- the first player meets who comes to the last seat
  have fixed : ∀ z, 0 < z → z < 2 * half + 2 → ∃ round < 2 * half + 1, seat (2 * half + 1) round z = 2 * half + 1 ∧
      ∀ other < 2 * half + 1, seat (2 * half + 1) other z = 2 * half + 1 → other = round := by
    intro z later inside
    have seats : ∀ round < 2 * half + 1, (seat (2 * half + 1) round z = 2 * half + 1 ↔ z + round = 2 * half + 1) := by
      intro round bound
      simp only [seat, if_neg (show z ≠ 0 by omega)]
      rcases Nat.lt_or_ge (z - 1 + round) (2 * half + 1) with small | large
      · rw [Nat.mod_eq_of_lt small]
        omega
      · rw [Nat.mod_eq_sub_mod large, Nat.mod_eq_of_lt (by omega)]
        omega
    refine ⟨2 * half + 1 - z, by omega, (seats _ (by omega)).mpr (by omega), fun other bound same => ?_⟩
    have sum := (seats other bound).mp same
    omega
  rcases Nat.eq_zero_or_pos x with rfl | laterX
  · obtain ⟨round, bound, there, only⟩ := fixed y (by omega) right
    exact ⟨round, bound, by simpa [seat] using there, fun other inside same => only other inside (by simpa [seat] using same)⟩
  · rcases Nat.eq_zero_or_pos y with rfl | laterY
    · obtain ⟨round, bound, there, only⟩ := fixed x laterX left
      exact ⟨round, bound, by simpa [seat] using there, fun other inside same => only other inside (by simpa [seat] using same)⟩
    · obtain ⟨round, bound, meets, only⟩ := @rotating_meet half (x - 1) (y - 1) (by omega) (by omega) (by omega)
      have seats : ∀ turn, (seat (2 * half + 1) turn x + seat (2 * half + 1) turn y = 2 * half + 1 ↔
          (x - 1 + turn) % (2 * half + 1) + (y - 1 + turn) % (2 * half + 1) + 1 = 2 * half) := by
        simp only [seat, if_neg (show x ≠ 0 by omega), if_neg (show y ≠ 0 by omega)]
        omega
      exact ⟨round, bound, (seats round).mpr meets, fun other inside same => only other inside ((seats other).mp same)⟩

/-- The ring is one player and an odd number of others. -/
theorem ring_shape {ids : List String} (two : 2 ≤ ids.length) :
    ∃ first rest half, roundRobinRing ids = first :: rest ∧ rest.length = 2 * half + 1 := by
  have even : (roundRobinRing ids).length % 2 = 0 ∧ 2 ≤ (roundRobinRing ids).length := by
    unfold roundRobinRing
    split
    · simp
      omega
    · simp
      omega
  cases shape : roundRobinRing ids with
  | nil => simp [shape] at even
  | cons first rest =>
    rw [shape, List.length_cons] at even
    exact ⟨first, rest, rest.length / 2, rfl, by omega⟩

theorem ring_nodup {ids : List String} (distinct : ids.Nodup) : (roundRobinRing ids).Nodup := by
  have players : (ids.map some).Nodup := distinct.map fun _ _ same => Option.some.inj same
  unfold roundRobinRing
  split
  · rw [List.nodup_append]
    simp [players]
  · exact players

theorem mem_ring {ids : List String} (id : String) : some id ∈ roundRobinRing ids ↔ id ∈ ids := by
  unfold roundRobinRing
  split <;> simp

def cellPair (order : List (Option String)) (round index : Nat) : Option (String × String) :=
  match order[index]?, order[order.length - 1 - index]? with
  | some (some left), some (some right) =>
    if left = "" ∨ right = "" then none
    else some (if (index + round) % 2 = 0 then (left, right) else (right, left))
  | _, _ => none

theorem roundPairs_eq (round : Nat) (order : List (Option String)) :
    roundPairs round order = (List.range (order.length / 2)).filterMap (cellPair order round) := rfl

theorem cellPair_some {order : List (Option String)} {round index : Nat} {pair : String × String}
    (plays : cellPair order round index = some pair) : ∃ left right, order[index]? = some (some left) ∧
      order[order.length - 1 - index]? = some (some right) ∧ left ≠ "" ∧ right ≠ "" ∧
      (pair = (left, right) ∨ pair = (right, left)) := by
  unfold cellPair at plays
  split at plays
  · next left right one two =>
    split at plays
    · cases plays
    · next named =>
      simp only [not_or] at named
      refine ⟨left, right, one, two, named.1, named.2, ?_⟩
      split at plays <;> cases plays <;> simp
  · cases plays

theorem cellPair_of {order : List (Option String)} {round index : Nat} {left right : String}
    (one : order[index]? = some (some left)) (two : order[order.length - 1 - index]? = some (some right))
    (named : left ≠ "" ∧ right ≠ "") : ∃ pair, cellPair order round index = some pair ∧
      (pair = (left, right) ∨ pair = (right, left)) := by
  unfold cellPair
  rw [one, two]
  simp only [named.1, named.2, or_self, if_false]
  split <;> simp

section

variable {first : Option String} {rest : List (Option String)} {half : Nat}

theorem orderAt_length (first : Option String) (rest : List (Option String)) (round : Nat) :
    (orderAt first rest round).length = rest.length + 1 := by simp [orderAt]

theorem orderAt_nodup (distinct : (first :: rest).Nodup) (round : Nat) : (orderAt first rest round).Nodup := by
  rw [orderAt, List.nodup_cons, List.mem_rotate, List.nodup_rotate]
  exact List.nodup_cons.mp distinct

theorem seat_unique (distinct : (first :: rest).Nodup) (size : rest.length = 2 * half + 1) {id : String} {place : Nat}
    (found : (first :: rest)[place]? = some (some id)) (round index : Nat) :
    (orderAt first rest round)[index]? = some (some id) ↔ index = seat (2 * half + 1) round place := by
  have inside := (List.getElem?_eq_some_iff.mp found).1
  have some_ : rest ≠ [] := by
    rintro rfl
    simp at size
  have own := orderAt_seat first rest some_ round place (by simpa using inside)
  rw [size, found] at own
  constructor
  · intro there
    have bound := (List.getElem?_eq_some_iff.mp there).1
    exact (List.getElem?_inj bound (orderAt_nodup distinct round)).mp (there.trans own.symm)
  · rintro rfl
    exact own

theorem schedule_eq {ids : List String} (shape : roundRobinRing ids = first :: rest) (size : rest.length = 2 * half + 1) :
    roundRobinSchedule ids = (List.range (2 * half + 1)).map fun round => roundPairs round (orderAt first rest round) := by
  have some_ : rest ≠ [] := by
    rintro rfl
    simp at size
  have start : first :: rest = orderAt first rest 0 := by simp [orderAt]
  simp only [roundRobinSchedule, shape]
  rw [List.length_cons, Nat.add_sub_cancel, size, start, scheduleFrom_eq first rest some_]
  simp

theorem schedule_flatten {ids : List String} (shape : roundRobinRing ids = first :: rest)
    (size : rest.length = 2 * half + 1) :
    (roundRobinSchedule ids).flatten = ((List.range (2 * half + 1)) ×ˢ (List.range (half + 1))).filterMap fun cell =>
      cellPair (orderAt first rest cell.1) cell.1 cell.2 := by
  rw [schedule_eq shape size]
  simp only [SProd.sprod, List.product, List.filterMap_flatMap, List.filterMap_map, roundPairs_eq, orderAt_length, size]
  rw [show (2 * half + 1 + 1) / 2 = half + 1 by omega, List.flatMap_def]
  rfl

end

/-- In the schedule every two players meet exactly once, and a round has nobody twice: its pairs are of two
different players, and each player is in one of them at most. -/
theorem roundRobin_complete {ids : List String} (distinct : ids.Nodup) (named : ∀ id ∈ ids, id ≠ "")
    (two : 2 ≤ ids.length) : (∀ a ∈ ids, ∀ b ∈ ids, a ≠ b →
      (roundRobinSchedule ids).flatten.countP (fun pair => pair = (a, b) ∨ pair = (b, a)) = 1) ∧
    ∀ round ∈ roundRobinSchedule ids,
      (∀ pair ∈ round, pair.1 ∈ ids ∧ pair.2 ∈ ids ∧ pair.1 ≠ pair.2) ∧
      ∀ a, round.countP (fun pair => pair.1 = a ∨ pair.2 = a) ≤ 1 := by
  obtain ⟨first, rest, half, shape, size⟩ := ring_shape two
  have once : (first :: rest).Nodup := shape ▸ ring_nodup distinct
  -- the place of a player in the ring
  have place : ∀ id ∈ ids, ∃ place < 2 * half + 2, (first :: rest)[place]? = some (some id) := by
    intro id inside
    have there : some id ∈ first :: rest := shape ▸ (mem_ring id).mpr inside
    obtain ⟨place, bound, found⟩ := List.mem_iff_getElem.mp there
    refine ⟨place, ?_, List.getElem?_eq_some_iff.mpr ⟨bound, found⟩⟩
    simp at bound
    omega
  constructor
  · intro a insideA b insideB apart
    obtain ⟨x, boundX, foundX⟩ := place a insideA
    obtain ⟨y, boundY, foundY⟩ := place b insideB
    have different : x ≠ y := by
      rintro rfl
      rw [foundX] at foundY
      simp at foundY
      exact apart foundY
    obtain ⟨round, inside, meets, only⟩ := opposite_once boundX boundY different
    -- the cell of a round and a seat is that of the two
    have cell : ∀ round index, index < half + 1 →
        (((cellPair (orderAt first rest round) round index).map
            fun pair => decide (pair = (a, b) ∨ pair = (b, a))).getD false = true ↔
          (index = seat (2 * half + 1) round x ∧ 2 * half + 1 - index = seat (2 * half + 1) round y) ∨
          (index = seat (2 * half + 1) round y ∧ 2 * half + 1 - index = seat (2 * half + 1) round x)) := by
      intro round index bound
      have last : (orderAt first rest round).length - 1 - index = 2 * half + 1 - index := by
        rw [orderAt_length, size]
        omega
      constructor
      · intro holds
        cases plays : cellPair (orderAt first rest round) round index with
        | none => simp [plays] at holds
        | some pair =>
          obtain ⟨left, right, one, two, -, -, either⟩ := cellPair_some plays
          rw [last] at two
          have same : pair = (a, b) ∨ pair = (b, a) := by simpa [plays] using holds
          have players : (left = a ∧ right = b) ∨ (left = b ∧ right = a) := by
            rcases either with rfl | rfl <;> rcases same with same | same <;> simp at same <;> simp [same]
          rcases players with ⟨rfl, rfl⟩ | ⟨rfl, rfl⟩
          · exact .inl ⟨(seat_unique once size foundX round index).mp one, (seat_unique once size foundY round _).mp two⟩
          · exact .inr ⟨(seat_unique once size foundY round index).mp one, (seat_unique once size foundX round _).mp two⟩
      · rintro (⟨one, two⟩ | ⟨one, two⟩)
        · obtain ⟨pair, plays, either⟩ := cellPair_of ((seat_unique once size foundX round index).mpr one)
            (last ▸ (seat_unique once size foundY round _).mpr two) ⟨named a insideA, named b insideB⟩
          rw [plays]
          rcases either with rfl | rfl <;> simp
        · obtain ⟨pair, plays, either⟩ := cellPair_of ((seat_unique once size foundY round index).mpr one)
            (last ▸ (seat_unique once size foundX round _).mpr two) ⟨named b insideB, named a insideA⟩
          rw [plays]
          rcases either with rfl | rfl <;> simp
    rw [schedule_flatten shape size, List.countP_filterMap]
    have cells : ((List.range (2 * half + 1)) ×ˢ (List.range (half + 1))).Nodup :=
      List.nodup_range.product List.nodup_range
    refine Foundation.countP_one cells (round, min (seat (2 * half + 1) round x) (seat (2 * half + 1) round y)) ?_ ?_ ?_
    · simp only [List.mem_product, List.mem_range]
      omega
    · refine (cell round _ (by omega)).mpr ?_
      omega
    · rintro ⟨other, index⟩ there holds
      simp only [List.mem_product, List.mem_range] at there
      have seats := (cell other index there.2).mp holds
      have same : other = round := only other there.1 (by omega)
      subst same
      simp only [Prod.mk.injEq, true_and]
      omega
  · intro pairs inside
    rw [schedule_eq shape size] at inside
    obtain ⟨round, -, rfl⟩ := List.mem_map.mp inside
    have length := orderAt_length first rest round
    have known : ∀ (index : Nat) (id : String), (orderAt first rest round)[index]? = some (some id) → id ∈ ids := by
      intro index id found
      have there : some id ∈ orderAt first rest round := List.mem_of_getElem? found
      have ring : some id ∈ first :: rest := by simpa [orderAt] using there
      exact (mem_ring id).mp (shape ▸ ring)
    constructor
    · intro pair there
      obtain ⟨index, bound, plays⟩ := List.mem_filterMap.mp there
      obtain ⟨left, right, one, two, -, -, either⟩ := cellPair_some plays
      have apart : left ≠ right := by
        rintro rfl
        have inside := (List.getElem?_eq_some_iff.mp one).1
        have same := (List.getElem?_inj inside (orderAt_nodup once round)).mp (one.trans two.symm)
        omega
      rcases either with rfl | rfl
      · exact ⟨known _ _ one, known _ _ two, apart⟩
      · exact ⟨known _ _ two, known _ _ one, apart.symm⟩
    · intro a
      rw [roundPairs_eq, List.countP_filterMap]
      refine Foundation.countP_le_one List.nodup_range fun one insideOne other insideOther holds also_ => ?_
      -- the seat of `a` says which cell it is
      have seats : ∀ index : Nat, ((cellPair (orderAt first rest round) round index).map
          fun pair => decide (pair.1 = a ∨ pair.2 = a)).getD false = true →
          (orderAt first rest round)[index]? = some (some a) ∨
            (orderAt first rest round)[2 * half + 1 - index]? = some (some a) := by
        intro index holds
        cases plays : cellPair (orderAt first rest round) round index with
        | none => simp [plays] at holds
        | some pair =>
          obtain ⟨left, right, one, two, -, -, either⟩ := cellPair_some plays
          rw [length, size] at two
          have player : left = a ∨ right = a := by
            rcases either with rfl | rfl <;> simp [plays] at holds <;> tauto
          rcases player with rfl | rfl
          · exact .inl one
          · exact .inr two
      have order := orderAt_nodup once round
      rw [List.mem_range, length, size] at insideOne insideOther
      have equal : ∀ i j : Nat, (orderAt first rest round)[i]? = some (some a) →
          (orderAt first rest round)[j]? = some (some a) → i = j := fun i j one two =>
        (List.getElem?_inj (List.getElem?_eq_some_iff.mp one).1 order).mp (one.trans two.symm)
      rcases seats one holds with left | left <;> rcases seats other also_ with right | right
      · exact equal _ _ left right
      · have same := equal _ _ left right
        omega
      · have same := equal _ _ left right
        omega
      · have same := equal _ _ left right
        omega

end

def whites (ids : List String) (id : String) : Nat := (roundRobinSchedule ids).flatten.countP fun pair => pair.1 = id

def blacks (ids : List String) (id : String) : Nat := (roundRobinSchedule ids).flatten.countP fun pair => pair.2 = id

/-- In the round `r` the second of the ring sits at `r + 1`, where board and round always give Black. -/
theorem second_black {ids : List String} (distinct : ids.Nodup) {second : String} (found : ids[1]? = some second) :
    ∀ pair ∈ (roundRobinSchedule ids).flatten, pair.1 ≠ second := by
  have two := (List.getElem?_eq_some_iff.mp found).1
  obtain ⟨first, rest, half, shape, size⟩ := ring_shape two
  have place : (first :: rest)[1]? = some (some second) := by
    rw [← shape, roundRobinRing]
    split <;> simp [List.getElem?_append, two, (List.getElem?_eq_some_iff.mp found).2]
  have seats := @seat_unique first rest half (shape ▸ ring_nodup distinct) size second 1 place
  rintro pair there same
  rw [schedule_flatten shape size, List.mem_filterMap] at there
  obtain ⟨⟨round, index⟩, inside, plays⟩ := there
  simp only [List.mem_product, List.mem_range] at inside
  have seat_ : seat (2 * half + 1) round 1 = round + 1 := by simp [seat, Nat.mod_eq_of_lt inside.1]
  unfold cellPair at plays
  split at plays
  · next left right one other =>
    rw [orderAt_length, size] at other
    split at plays
    · cases plays
    · split at plays <;> cases plays <;> cases same
      · have board := (seats round index).mp one
        omega
      · have board := (seats round _).mp other
        omega
  · cases plays

/-- Colours are balanced for two players only: of more, the second of the list has Black in every game. -/
theorem colours_balanced_iff {ids : List String} (distinct : ids.Nodup) (named : ∀ id ∈ ids, id ≠ "")
    (two : 2 ≤ ids.length) :
    (∀ id ∈ ids, whites ids id ≤ blacks ids id + 1 ∧ blacks ids id ≤ whites ids id + 1) ↔ ids.length = 2 := by
  obtain ⟨first, second, rest, rfl⟩ : ∃ first second rest, ids = first :: second :: rest := by
    match ids, two with
    | first :: second :: rest, _ => exact ⟨first, second, rest, rfl⟩
  constructor
  · intro balanced
    by_contra more
    obtain ⟨third, rest, rfl⟩ := List.exists_cons_of_ne_nil (show rest ≠ [] by rintro rfl; exact more rfl)
    have black := @second_black _ distinct second rfl
    -- whom the second meets has White
    have meets : ∀ id ∈ first :: second :: third :: rest, id ≠ second →
        (id, second) ∈ (roundRobinSchedule (first :: second :: third :: rest)).flatten := by
      intro id inside apart
      have once := (roundRobin_complete distinct named two).1 id inside second (by simp) apart
      obtain ⟨pair, there, same⟩ := List.countP_pos_iff.mp (Nat.lt_of_lt_of_eq Nat.zero_lt_one once.symm)
      rcases of_decide_eq_true same with rfl | rfl
      · exact there
      · exact absurd rfl (black _ there)
    have none_ : whites (first :: second :: third :: rest) second = 0 :=
      List.countP_eq_zero.mpr fun pair there same => black pair there (of_decide_eq_true same)
    have apart : first ≠ second ∧ third ≠ second ∧ first ≠ third := by
      simp only [List.nodup_cons, List.mem_cons, not_or] at distinct
      exact ⟨distinct.1.1, Ne.symm distinct.2.1.1, distinct.1.2.1⟩
    have games : 2 ≤ blacks (first :: second :: third :: rest) second := by
      have both : [(first, second), (third, second)] ⊆ (roundRobinSchedule (first :: second :: third :: rest)).flatten.filter
          fun pair => pair.2 = second := by
        simp only [List.cons_subset, List.mem_filter, decide_true, and_true, List.nil_subset]
        exact ⟨meets first (by simp) apart.1, meets third (by simp) apart.2.1⟩
      rw [blacks, List.countP_eq_length_filter]
      exact (List.subperm_of_subset (by simpa using apart.2.2) both).length_le
    have limit := (balanced second (by simp)).2
    omega
  · intro length
    obtain rfl : rest = [] := by simpa using length
    have apart : first ≠ second := by simpa using distinct
    simp [whites, blacks, roundRobinSchedule, roundRobinRing, scheduleFrom, roundPairs,
      named, apart, apart.symm]

theorem colours_three : ¬(∀ id ∈ ["ada", "bob", "cyd"], whites ["ada", "bob", "cyd"] id ≤ blacks ["ada", "bob", "cyd"] id + 1 ∧
    blacks ["ada", "bob", "cyd"] id ≤ whites ["ada", "bob", "cyd"] id + 1) := fun balanced =>
  absurd ((@colours_balanced_iff ["ada", "bob", "cyd"] (by decide) (by decide) (by decide)).mp balanced) (by decide)

/-- `bob` has Black in both games, `cyd` White. -/
theorem second_always_black : ¬∀ ids : List String, ids.Nodup → (∀ id ∈ ids, id ≠ "") → 2 ≤ ids.length →
    ∀ id ∈ ids, whites ids id ≤ blacks ids id + 1 ∧ blacks ids id ≤ whites ids id + 1 := fun balanced =>
  absurd (balanced ["ada", "bob", "cyd"] (by decide) (by decide) (by decide)) (by decide)

end SpaceApp.Chess
