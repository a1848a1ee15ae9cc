import Mathlib.Data.List.Perm.Basic
import Mathlib.Data.List.Lex
import SpaceApp.Chess.Tournament

/-! The search behind a Swiss pairing: what it finds pairs everybody without a rematch, and when it finds nothing
with tries left, there is no such pairing.
-/

set_option autoImplicit false

namespace SpaceApp.Chess

open SpaceApp.Foundation

theorem textLess_asymm {a b : String} (less : textLess a b = true) : textLess b a = false := by
  rw [textLess, unitsLess_iff] at less
  by_contra other
  rw [Bool.not_eq_false, textLess, unitsLess_iff] at other
  exact lt_asymm less other

theorem textLess_total {a b : String} (apart : a ≠ b) : textLess a b = true ∨ textLess b a = true := by
  simp only [textLess, unitsLess_iff]
  rcases lt_trichotomy ((js a).map UInt16.toNat) ((js b).map UInt16.toNat) with less | same | more
  · exact .inl less
  · have units := List.map_injective_iff.mpr (fun _ _ equal => UInt16.toNat_inj.mp equal) same
    exact absurd (js_injective units) apart
  · exact .inr more

theorem pairKey_comm (a b : String) : pairKey a b = pairKey b a := by
  by_cases same : a = b
  · rw [same]
  · unfold pairKey
    rcases textLess_total same with less | less
    · simp [less, textLess_asymm less]
    · simp [less, textLess_asymm less]

theorem bar_split {a b c d : String} (left : '|' ∉ a.toList) (right : '|' ∉ b.toList)
    (same : a ++ "|" ++ b = c ++ "|" ++ d) : a = c ∧ b = d := by
  have lists := congrArg String.toList same
  simp only [String.toList_append] at lists
  have bar : "|".toList = ['|'] := rfl
  rw [bar, List.append_assoc, List.append_assoc, List.singleton_append, List.singleton_append,
    List.append_cons_inj_of_notMem left right] at lists
  exact ⟨String.toList_injective lists.1, String.toList_injective lists.2.2⟩

theorem pairKey_inj {a b c d : String} (cleanA : '|' ∉ a.toList) (cleanB : '|' ∉ b.toList)
    (same : pairKey a b = pairKey c d) : (a = c ∧ b = d) ∨ (a = d ∧ b = c) := by
  unfold pairKey at same
  split at same <;> split at same
  · exact .inl (bar_split cleanA cleanB same)
  · exact .inr (bar_split cleanA cleanB same)
  · exact .inr (bar_split cleanB cleanA same).symm
  · exact .inl (bar_split cleanB cleanA same).symm

section

variable {A : Type}

def players (pairs : List (A × A)) : List A := pairs.flatMap fun pair => [pair.1, pair.2]

/-- Everybody of the list is in one pair. -/
def IsPairing (list : List A) (pairs : List (A × A)) : Prop := (players pairs).Perm list

theorem players_cons (pair : A × A) (pairs : List (A × A)) : players (pair :: pairs) = pair.1 :: pair.2 :: players pairs :=
  rfl

theorem players_perm {pairs others : List (A × A)} (same : pairs.Perm others) : (players pairs).Perm (players others) :=
  same.flatMap_right _

theorem IsPairing.split {first : A} {rest : List A} {pairs : List (A × A)} (pairing : IsPairing (first :: rest) pairs) :
    ∃ second before after others, rest = before ++ second :: after ∧
      ((first, second) ∈ pairs ∨ (second, first) ∈ pairs) ∧ (∀ pair ∈ others, pair ∈ pairs) ∧
      IsPairing (before ++ after) others := by
  have there : first ∈ players pairs := pairing.mem_iff.mpr (List.mem_cons_self ..)
  obtain ⟨pair, inside, own⟩ := List.mem_flatMap.mp there
  obtain ⟨front, back, rfl⟩ := List.append_of_mem inside
  have moved := (players_perm (List.perm_middle : (front ++ pair :: back).Perm (pair :: (front ++ back)))).symm.trans pairing
  -- whoever sits beside the first player
  have rests : ∀ second, (first :: second :: players (front ++ back)).Perm (first :: rest) →
      ∃ before after, rest = before ++ second :: after ∧ IsPairing (before ++ after) (front ++ back) := by
    intro second same
    have shorter := same.cons_inv
    obtain ⟨before, after, rfl⟩ := List.append_of_mem (shorter.mem_iff.mp (List.mem_cons_self ..))
    exact ⟨before, after, rfl, (shorter.trans List.perm_middle).cons_inv⟩
  have kept : ∀ other ∈ front ++ back, other ∈ front ++ pair :: back := by
    intro other inside
    rcases List.mem_append.mp inside with left | right
    · exact List.mem_append_left _ left
    · exact List.mem_append_right _ (List.mem_cons_of_mem _ right)
  rcases List.mem_cons.mp own with rfl | second
  · obtain ⟨before, after, shape, pairing⟩ := rests pair.2 moved
    exact ⟨pair.2, before, after, front ++ back, shape, .inl (by simp), kept, pairing⟩
  · obtain rfl := List.mem_singleton.mp second
    obtain ⟨before, after, shape, pairing⟩ := rests pair.1 ((List.Perm.swap _ _ _).trans moved)
    exact ⟨pair.1, before, after, front ++ back, shape, .inr (by simp), kept, pairing⟩

end

def RematchFree (played : List String) (pairs : List (String × String)) : Prop :=
  ∀ pair ∈ pairs, pairKey pair.1 pair.2 ∉ played

structure SearchKept (played : List String) (result : Option (List (String × String)) × Int) (list : List String)
    (budget : Int) : Prop where
  lower : result.2 ≤ budget
  found : ∀ pairs, result.1 = some pairs → IsPairing list pairs ∧ RematchFree played pairs
  none_ : result.1 = none → 0 ≤ result.2 → ∀ pairs, IsPairing list pairs → ¬RematchFree played pairs

theorem tryOpponents_kept {played : List String} {solve : List String → Int → Option (List (String × String)) × Int}
    {first : String} {rest : List String}
    (kept : ∀ list budget, list.length + 1 ≤ rest.length → SearchKept played (solve list budget) list budget)
    (before after : List String) (shape : rest = before ++ after) (budget : Int) :
    (tryOpponents solve played first before after budget).2 ≤ budget ∧
    (∀ pairs, (tryOpponents solve played first before after budget).1 = some pairs →
      IsPairing (first :: rest) pairs ∧ RematchFree played pairs) ∧
    ((tryOpponents solve played first before after budget).1 = none →
      0 ≤ (tryOpponents solve played first before after budget).2 →
      ∀ front second back others, after = front ++ second :: back → pairKey first second ∉ played →
        IsPairing (before ++ front ++ back) others → ¬RematchFree played others) := by
  induction after generalizing before budget with
  | nil => exact ⟨Int.le_refl _, by simp [tryOpponents], fun _ _ front second back _ same => by simp at same⟩
  | cons second after ih =>
    simp only [tryOpponents]
    have moved : rest = before ++ [second] ++ after := by simp [shape]
    -- what holds when the search goes on behind this opponent
    have goesOn : ∀ left : Int, left ≤ budget → (∀ others, 0 ≤ left → pairKey first second ∉ played →
          IsPairing (before ++ after) others → ¬RematchFree played others) →
        (tryOpponents solve played first (before ++ [second]) after left).2 ≤ budget ∧
        (∀ pairs, (tryOpponents solve played first (before ++ [second]) after left).1 = some pairs →
          IsPairing (first :: rest) pairs ∧ RematchFree played pairs) ∧
        ((tryOpponents solve played first (before ++ [second]) after left).1 = none →
          0 ≤ (tryOpponents solve played first (before ++ [second]) after left).2 →
          ∀ front other back others, second :: after = front ++ other :: back → pairKey first other ∉ played →
            IsPairing (before ++ front ++ back) others → ¬RematchFree played others) := by
      intro left less here
      obtain ⟨lower, found, none_⟩ := ih (before ++ [second]) moved left
      refine ⟨by omega, found, fun nothing tries front other back others same fresh pairing => ?_⟩
      cases front with
      | nil =>
        simp only [List.nil_append, List.cons.injEq] at same
        obtain ⟨rfl, rfl⟩ := same
        exact here others (by omega) fresh (by simpa using pairing)
      | cons head front =>
        simp only [List.cons_append, List.cons.injEq] at same
        obtain ⟨rfl, rfl⟩ := same
        exact none_ nothing tries front other back others rfl fresh (by simpa using pairing)
    split
    · next passed =>
      exact ⟨by simp, by simp, fun _ tries => by
        simp only at tries
        omega⟩
    · next tries =>
      split
      · next met => exact goesOn (budget - 1) (by omega) fun _ _ fresh => absurd met fresh
      · next fresh =>
        have shorter : (before ++ after).length + 1 ≤ rest.length := by
          rw [shape, List.length_append, List.length_append, List.length_cons]
          omega
        have inner := kept (before ++ after) (budget - 1) shorter
        split
        · next tail left solved =>
          rw [solved] at inner
          have lower := inner.lower
          refine ⟨by simp only at lower ⊢; omega, fun pairs same => ?_, by simp⟩
          simp only [Option.some.injEq] at same
          subst same
          obtain ⟨pairing, free⟩ := inner.found tail rfl
          constructor
          · rw [IsPairing, players_cons, shape]
            exact (List.Perm.cons _ ((List.Perm.cons second pairing).trans List.perm_middle.symm))
          · intro pair inside
            rcases List.mem_cons.mp inside with rfl | later
            · exact fresh
            · exact free pair later
        · next left solved =>
          rw [solved] at inner
          have lower := inner.lower
          simp only at lower
          exact goesOn left (by omega) fun others some_ _ pairing => inner.none_ rfl some_ others pairing

theorem solveWithin_kept (played : List String) (fuel : Nat) (list : List String) (enough : list.length ≤ fuel)
    (budget : Int) : SearchKept played (solveWithin played fuel list budget) list budget := by
  induction fuel generalizing list budget with
  | zero =>
    obtain rfl : list = [] := List.length_eq_zero_iff.mp (by omega)
    exact ⟨Int.le_refl _, by simp [solveWithin, IsPairing, players, RematchFree], by simp [solveWithin]⟩
  | succ fuel ih =>
    cases list with
    | nil => exact ⟨Int.le_refl _, by simp [solveWithin, IsPairing, players, RematchFree], by simp [solveWithin]⟩
    | cons first rest =>
      simp only [solveWithin]
      rw [List.length_cons] at enough
      have inner : ∀ shorter tries, shorter.length + 1 ≤ rest.length →
          SearchKept played (solveWithin played fuel shorter tries) shorter tries :=
        fun shorter tries bound => ih shorter (by omega) tries
      obtain ⟨lower, found, none_⟩ := tryOpponents_kept inner [] rest rfl budget
      refine ⟨lower, found, fun nothing tries pairs pairing free => ?_⟩
      -- a pairing would have been found through the opponent it gives the first player
      obtain ⟨second, before, after, others, shape, beside, inside, rest_⟩ := pairing.split
      have fresh : pairKey first second ∉ played := by
        rcases beside with there | there
        · exact free _ there
        · rw [pairKey_comm]
          exact free _ there
      exact none_ nothing tries before second after others shape fresh rest_ fun pair there => free pair (inside pair there)

/-- A pairing that is found has everybody and no rematch; with tries left, none is found only where there is none. -/
theorem solve_kept (played list : List String) : SearchKept played (solve played list) list PAIRING_BUDGET :=
  solveWithin_kept played list.length list (Nat.le_refl _) PAIRING_BUDGET

theorem adjacentPairs_pairing (list : List String) (even : list.length % 2 = 0) : IsPairing list (adjacentPairs list) := by
  induction list using adjacentPairs.induct with
  | case1 first second rest ih =>
    rw [adjacentPairs, IsPairing, players_cons]
    refine ((ih ?_).cons second).cons first
    simp at even
    omega
  | case2 rest short =>
    rcases rest with _ | ⟨one, _ | ⟨two, rest⟩⟩
    · simp [adjacentPairs, IsPairing, players]
    · simp at even
    · exact absurd rfl (short one two rest)

end SpaceApp.Chess
