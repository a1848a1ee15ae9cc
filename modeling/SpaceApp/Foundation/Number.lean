import Mathlib.Data.Int.Log
import Mathlib.Data.Rat.Floor
import Mathlib.Algebra.Order.Ring.Rat
import SpaceApp.Foundation.JsText

/-! JavaScript numbers: the value of a decimal literal is the nearest double, ties to
the even one, infinite past the largest.
-/

set_option autoImplicit false

namespace SpaceApp.Foundation

inductive JsNumber where
  | finite (value : ℚ)
  | infinite (negative : Bool)
  | nan
  deriving DecidableEq

def roundToEven (value : ℚ) : ℤ :=
  let low := ⌊value⌋
  let rest := value - low
  if rest < 1 / 2 then low
  else if 1 / 2 < rest then low + 1
  else if low % 2 = 0 then low else low + 1

/-- The double nearest to a value. -/
def toDouble (value : ℚ) : JsNumber :=
  if value = 0 then .finite 0
  else
    let exponent := max (Int.log 2 |value| - 52) (-1074)
    let rounded := (roundToEven (|value| / 2 ^ exponent) : ℚ) * 2 ^ exponent
    if 2 ^ (1024 : ℤ) ≤ rounded then .infinite (value < 0)
    else .finite (if value < 0 then -rounded else rounded)

def isDigitUnit (unit : CodeUnit) : Bool := 0x30 ≤ unit && unit ≤ 0x39

def digitsValue (digits : JsString) : ℕ :=
  digits.foldl (fun total digit => 10 * total + (digit.toNat - 0x30)) 0

/-- The exact value of a JSON number literal: sign, digits, fraction, exponent. -/
def decimalLiteral (raw : JsString) : ℚ :=
  let negative := raw.head? = some 0x2D
  let unsigned := if negative then raw.drop 1 else raw
  let whole := unsigned.takeWhile isDigitUnit
  let afterWhole := unsigned.dropWhile isDigitUnit
  let pointed := afterWhole.head? = some 0x2E
  let fraction := if pointed then (afterWhole.drop 1).takeWhile isDigitUnit else []
  let afterFraction := if pointed then (afterWhole.drop 1).dropWhile isDigitUnit else afterWhole
  let signed := afterFraction.drop 1
  let down := signed.head? = some 0x2D
  let exponent := digitsValue (signed.filter isDigitUnit)
  let magnitude := (digitsValue whole : ℚ) + (digitsValue fraction : ℚ) / 10 ^ fraction.length
  let scaled := if down then magnitude / 10 ^ exponent else magnitude * 10 ^ exponent
  if negative then -scaled else scaled

def literalNumber (raw : JsString) : JsNumber := toDouble (decimalLiteral raw)

/-- `Number.isFinite(value) && value >= 0 ? Math.trunc(value) : null`. -/
def JsNumber.count : JsNumber → Option ℚ
  | .finite value => if 0 ≤ value then some (⌊value⌋ : ℚ) else none
  | _ => none

def JsNumber.add : JsNumber → JsNumber → JsNumber
  | .finite a, .finite b => toDouble (a + b)
  | .nan, _ => .nan
  | _, .nan => .nan
  | .infinite a, .infinite b => if a = b then .infinite a else .nan
  | .infinite a, .finite _ => .infinite a
  | .finite _, .infinite b => .infinite b

example : literalNumber (js "-12.5e1") = .finite (-125) := by decide +kernel
example : literalNumber (js "9007199254740993") = .finite 9007199254740992 := by decide +kernel

end SpaceApp.Foundation
