import Mathlib.Data.List.Basic
import Mathlib.Data.UInt

/-! JavaScript text.

A JavaScript string is its sequence of UTF-16 code units, unpaired surrogates
included. Identifiers and messages that are only compared and concatenated stay
Lean strings; their order is still the order of their code units.
-/

set_option autoImplicit false

namespace SpaceApp.Foundation

abbrev CodeUnit := UInt16

abbrev JsString := List CodeUnit

def unitsOf (code : Nat) : JsString :=
  if code < 0x10000 then [code.toUInt16]
  else [(0xD800 + (code - 0x10000) / 0x400).toUInt16, (0xDC00 + (code - 0x10000) % 0x400).toUInt16]

def isHighSurrogate (unit : CodeUnit) : Bool := 0xD800 ≤ unit && unit ≤ 0xDBFF
def isLowSurrogate (unit : CodeUnit) : Bool := 0xDC00 ≤ unit && unit ≤ 0xDFFF

def js (text : String) : JsString := text.toList.flatMap fun c => unitsOf c.toNat

/-- `a < b` on strings: code unit by code unit. -/
def unitsLess : JsString → JsString → Bool
  | _, [] => false
  | [], _ :: _ => true
  | a :: as, b :: bs => if a = b then unitsLess as bs else decide (a < b)

def textLess (a b : String) : Bool := unitsLess (js a) (js b)

/-- `\s`, and what `trim` removes: WhiteSpace and LineTerminator. -/
def isSpace (code : Nat) : Bool :=
  (0x09 ≤ code && code ≤ 0x0D) || code == 0x20 || code == 0xA0 || code == 0x1680 ||
    (0x2000 ≤ code && code ≤ 0x200A) || code == 0x2028 || code == 0x2029 || code == 0x202F ||
    code == 0x205F || code == 0x3000 || code == 0xFEFF

def isSpaceUnit (unit : CodeUnit) : Bool := isSpace unit.toNat

def trimUnits (text : JsString) : JsString :=
  ((text.dropWhile isSpaceUnit).reverse.dropWhile isSpaceUnit).reverse

def trimText (text : String) : String :=
  let spaced := fun c : Char => isSpace c.toNat
  String.ofList ((text.toList.dropWhile spaced).reverse.dropWhile spaced).reverse

theorem toUInt16_toNat {code : Nat} (small : code < 0x10000) : code.toUInt16.toNat = code := by
  simp only [Nat.toUInt16_eq, UInt16.toNat_ofNat']
  omega

/-- No code unit of one character is the first of another one's. -/
theorem unitsOf_append_inj {a b : Char} {left right : JsString}
    (same : unitsOf a.toNat ++ left = unitsOf b.toNat ++ right) : a = b ∧ left = right := by
  have scalar : ∀ c : Char, c.toNat < 0xD800 ∨ 0xDFFF < c.toNat ∧ c.toNat < 0x110000 := by
    intro c
    have valid := c.valid
    unfold UInt32.isValidChar Nat.isValidChar at valid
    exact valid
  have scalarA := scalar a
  have scalarB := scalar b
  have code : ∀ c : Char, ¬c.toNat < 0x10000 → (0xD800 + (c.toNat - 0x10000) / 0x400) < 0x10000 ∧
      (0xDC00 + (c.toNat - 0x10000) % 0x400) < 0x10000 ∧ 0xD800 + (c.toNat - 0x10000) / 0x400 < 0xDC00 := by
    intro c large
    have := scalar c
    omega
  unfold unitsOf at same
  split at same <;> split at same
  · next smallA smallB =>
    simp only [List.cons_append, List.nil_append, List.cons.injEq] at same
    have equal := congrArg UInt16.toNat same.1
    rw [toUInt16_toNat smallA, toUInt16_toNat smallB] at equal
    exact ⟨Char.toNat_inj.mp equal, same.2⟩
  · next smallA largeB =>
    simp only [List.cons_append, List.nil_append, List.cons.injEq] at same
    have equal := congrArg UInt16.toNat same.1
    obtain ⟨high, -, bound⟩ := code b largeB
    rw [toUInt16_toNat smallA, toUInt16_toNat high] at equal
    omega
  · next largeA smallB =>
    simp only [List.cons_append, List.nil_append, List.cons.injEq] at same
    have equal := congrArg UInt16.toNat same.1
    obtain ⟨high, -, bound⟩ := code a largeA
    rw [toUInt16_toNat smallB, toUInt16_toNat high] at equal
    omega
  · next largeA largeB =>
    simp only [List.cons_append, List.nil_append, List.cons.injEq] at same
    have first := congrArg UInt16.toNat same.1
    have second := congrArg UInt16.toNat same.2.1
    obtain ⟨highA, lowA, -⟩ := code a largeA
    obtain ⟨highB, lowB, -⟩ := code b largeB
    rw [toUInt16_toNat highA, toUInt16_toNat highB] at first
    rw [toUInt16_toNat lowA, toUInt16_toNat lowB] at second
    refine ⟨Char.toNat_inj.mp ?_, same.2.2⟩
    omega

theorem js_injective {a b : String} (same : js a = js b) : a = b := by
  have chars : ∀ left right : List Char, left.flatMap (fun c => unitsOf c.toNat) =
      right.flatMap (fun c => unitsOf c.toNat) → left = right := by
    have nonempty : ∀ c : Char, unitsOf c.toNat ≠ [] := by
      intro c
      unfold unitsOf
      split <;> simp
    intro left
    induction left with
    | nil =>
      intro right equal
      cases right with
      | nil => rfl
      | cons c right =>
        rw [List.flatMap_nil, List.flatMap_cons, List.nil_eq, List.append_eq_nil_iff] at equal
        exact absurd equal.1 (nonempty c)
    | cons c left ih =>
      intro right equal
      cases right with
      | nil =>
        rw [List.flatMap_nil, List.flatMap_cons, List.append_eq_nil_iff] at equal
        exact absurd equal.1 (nonempty c)
      | cons d right =>
        rw [List.flatMap_cons, List.flatMap_cons] at equal
        obtain ⟨rfl, rest⟩ := unitsOf_append_inj equal
        rw [ih right rest]
  exact String.toList_injective (chars _ _ same)

theorem unitsLess_iff (a b : JsString) : unitsLess a b = true ↔ a.map UInt16.toNat < b.map UInt16.toNat := by
  induction a generalizing b with
  | nil =>
    cases b with
    | nil => simp [unitsLess]
    | cons y b => simp [unitsLess]
  | cons x a ih =>
    cases b with
    | nil => simp [unitsLess]
    | cons y b =>
      rw [unitsLess, List.map_cons, List.map_cons, List.cons_lt_cons_iff]
      by_cases same : x = y
      · subst same
        simp [ih]
      · have differ : x.toNat ≠ y.toNat := fun equal => same (UInt16.toNat_inj.mp equal)
        rw [if_neg same, decide_eq_true_iff, UInt16.lt_iff_toNat_lt]
        simp [differ]

end SpaceApp.Foundation
