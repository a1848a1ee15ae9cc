import Mathlib.Data.List.TakeWhile
import SpaceApp.Foundation.Number

/-! JSON texts: values over any reading of the number literals, a recursive-descent
parser and the compact writers.

An object is its fields in insertion order, one per key. The parser's fuel only makes
it a structural recursion: twice the text's length is always enough.
-/

set_option autoImplicit false

namespace SpaceApp.Foundation

inductive Json (ν : Type) where
  | null
  | bool (value : Bool)
  | number (value : ν)
  | string (text : JsString)
  | array (items : List (Json ν))
  | object (fields : List (JsString × Json ν))

/-- An object's fields. -/
abbrev JsonObject (ν : Type) := List (JsString × Json ν)

/-- `Map.set`: a key keeps the place of its first field. -/
def setEntry {ν : Type} (fields : JsonObject ν) (key : JsString) (value : Json ν) : JsonObject ν :=
  if fields.any fun field => field.1 = key then
    fields.map fun field => if field.1 = key then (key, value) else field
  else fields ++ [(key, value)]

/-- The value of a key that is an array index, of digits without a leading zero. -/
def arrayIndex (key : JsString) : Option Nat :=
  if key ≠ [] ∧ key.all isDigitUnit ∧ (key.head? = some 0x30 → key.length = 1) ∧
      digitsValue key < 2 ^ 32 - 1 then
    some (digitsValue key)
  else none

/-- A property set on a plain object: array indexes come first, in ascending order. -/
def setProperty {ν : Type} (fields : JsonObject ν) (key : JsString) (value : Json ν) : JsonObject ν :=
  if fields.any fun field => field.1 = key then setEntry fields key value
  else
    match arrayIndex key with
    | none => fields ++ [(key, value)]
    | some index =>
        let before := fun field : JsString × Json ν => (arrayIndex field.1).any fun other => other < index
        fields.takeWhile before ++ (key, value) :: fields.dropWhile before

structure JsonRules (ν : Type) where
  /-- How deep arrays and objects may nest, one more than allowed; none for any depth. -/
  depth : Option Nat
  /-- `\u` escapes of surrogates only in pairs. -/
  paired : Bool
  literal : JsString → ν
  set : JsonObject ν → JsString → Json ν → JsonObject ν

namespace JsonParser

def quote : CodeUnit := 0x22
def backslash : CodeUnit := 0x5C
def minus : CodeUnit := 0x2D
def zero : CodeUnit := 0x30
def comma : CodeUnit := 0x2C
def colon : CodeUnit := 0x3A
def openBrace : CodeUnit := 0x7B
def closeBrace : CodeUnit := 0x7D
def openBracket : CodeUnit := 0x5B
def closeBracket : CodeUnit := 0x5D

def isBlank (unit : CodeUnit) : Bool := unit == 0x20 || unit == 0x09 || unit == 0x0A || unit == 0x0D

def skipWhitespace (text : JsString) : JsString := text.dropWhile isBlank

def hexDigit (unit : CodeUnit) : Option Nat :=
  if 0x30 ≤ unit ∧ unit ≤ 0x39 then some (unit.toNat - 0x30)
  else if 0x61 ≤ unit ∧ unit ≤ 0x66 then some (unit.toNat - 0x61 + 10)
  else if 0x41 ≤ unit ∧ unit ≤ 0x46 then some (unit.toNat - 0x41 + 10)
  else none

def hex4 (a b c d : CodeUnit) : Option CodeUnit := do
  let a ← hexDigit a
  let b ← hexDigit b
  let c ← hexDigit c
  let d ← hexDigit d
  return (((a * 16 + b) * 16 + c) * 16 + d).toUInt16

def simpleEscapes : List (CodeUnit × CodeUnit) :=
  [(0x22, 0x22), (0x5C, 0x5C), (0x2F, 0x2F), (0x62, 0x08), (0x66, 0x0C), (0x6E, 0x0A), (0x72, 0x0D), (0x74, 0x09)]

def cons (unit : CodeUnit) (parsed : Option (JsString × JsString)) : Option (JsString × JsString) :=
  parsed.map fun found => (unit :: found.1, found.2)

/-- The string behind its opening quote, and the text behind the closing one. -/
def string (paired : Bool) : JsString → Option (JsString × JsString)
  | [] => none
  | unit :: rest =>
      if unit < 0x20 then none
      else if unit = quote then some ([], rest)
      else if unit ≠ backslash then cons unit (string paired rest)
      else
        match rest with
        | [] => none
        | escape :: rest =>
            match simpleEscapes.lookup escape with
            | some meant => cons meant (string paired rest)
            | none =>
                if escape ≠ 0x75 then none
                else
                  match rest with
                  | a :: b :: c :: d :: rest =>
                      match hex4 a b c d with
                      | none => none
                      | some code =>
                          if ¬ paired ∨ (¬ isHighSurrogate code ∧ ¬ isLowSurrogate code) then
                            cons code (string paired rest)
                          else if isLowSurrogate code then none
                          else
                            match rest with
                            | first :: second :: a :: b :: c :: d :: rest =>
                                if first = backslash ∧ second = 0x75 then
                                  match hex4 a b c d with
                                  | none => none
                                  | some low =>
                                      if isLowSurrogate low then cons code (cons low (string paired rest))
                                      else none
                                else none
                            | _ => none
                  | _ => none

def digits (text : JsString) : Option JsString :=
  if (text.takeWhile isDigitUnit).isEmpty then none else some (text.dropWhile isDigitUnit)

def afterSign (signs : List CodeUnit) (text : JsString) : JsString :=
  if text.head?.any fun unit => signs.contains unit then text.drop 1 else text

def wholePart (text : JsString) : Option JsString :=
  if text.head? = some zero then
    if (text.drop 1).head?.any isDigitUnit then none else some (text.drop 1)
  else digits text

def fractionPart (text : JsString) : Option JsString :=
  if text.head? = some 0x2E then digits (text.drop 1) else some text

def exponentPart (text : JsString) : Option JsString :=
  if text.head? = some 0x65 ∨ text.head? = some 0x45 then digits (afterSign [0x2B, minus] (text.drop 1))
  else some text

/-- The text behind a number literal. -/
def numberRest (text : JsString) : Option JsString :=
  (wholePart (afterSign [minus] text)).bind fun whole => (fractionPart whole).bind exponentPart

def literals (ν : Type) : List (JsString × Json ν) :=
  [(js "null", .null), (js "true", .bool true), (js "false", .bool false)]

def enter (depth : Option Nat) : Option (Option Nat) :=
  match depth with
  | none => some none
  | some depth => if depth - 1 = 0 then none else some (some (depth - 1))

section

variable {ν : Type} (rules : JsonRules ν)

mutual

def value : Nat → Option Nat → JsString → Option (Json ν × JsString)
  | 0, _, _ => none
  | _ + 1, _, [] => none
  | fuel + 1, depth, unit :: rest =>
      if unit = openBrace then
        match enter depth with
        | none => none
        | some depth =>
            match skipWhitespace rest with
            | [] => none
            | next :: behind =>
                if next = closeBrace then some (.object [], behind)
                else members fuel depth [] (next :: behind)
      else if unit = openBracket then
        match enter depth with
        | none => none
        | some depth =>
            match skipWhitespace rest with
            | [] => none
            | next :: behind =>
                if next = closeBracket then some (.array [], behind)
                else elements fuel depth [] (next :: behind)
      else if unit = quote then
        (string rules.paired rest).map fun found => (.string found.1, found.2)
      else if unit = minus ∨ isDigitUnit unit then
        (numberRest (unit :: rest)).map fun behind =>
          (.number (rules.literal ((unit :: rest).take ((unit :: rest).length - behind.length))), behind)
      else
        ((literals ν).find? fun literal => literal.1.isPrefixOf (unit :: rest)).map fun literal =>
          (literal.2, (unit :: rest).drop literal.1.length)

def members : Nat → Option Nat → JsonObject ν → JsString → Option (Json ν × JsString)
  | 0, _, _, _ => none
  | _ + 1, _, _, [] => none
  | fuel + 1, depth, fields, unit :: rest =>
      if unit ≠ quote then none
      else
        match string rules.paired rest with
        | none => none
        | some (key, behind) =>
            match skipWhitespace behind with
            | [] => none
            | sign :: behind =>
                if sign ≠ colon then none
                else
                  match value fuel depth (skipWhitespace behind) with
                  | none => none
                  | some (item, behind) =>
                      match skipWhitespace behind with
                      | [] => none
                      | sign :: behind =>
                          if sign = closeBrace then some (.object (rules.set fields key item), behind)
                          else if sign = comma then
                            members fuel depth (rules.set fields key item) (skipWhitespace behind)
                          else none

def elements : Nat → Option Nat → List (Json ν) → JsString → Option (Json ν × JsString)
  | 0, _, _, _ => none
  | fuel + 1, depth, items, text =>
      match value fuel depth text with
      | none => none
      | some (item, behind) =>
          match skipWhitespace behind with
          | [] => none
          | sign :: behind =>
              if sign = closeBracket then some (.array (items ++ [item]), behind)
              else if sign = comma then elements fuel depth (items ++ [item]) (skipWhitespace behind)
              else none

end

/-- A JSON text: one value with blanks around it. -/
def parse (text : JsString) : Option (Json ν) :=
  match value rules (2 * text.length + 1) rules.depth (skipWhitespace text) with
  | some (found, behind) => if skipWhitespace behind = [] then some found else none
  | none => none

end

end JsonParser

abbrev JsValue := Json JsNumber

def parseJs (text : JsString) : Option JsValue :=
  JsonParser.parse { depth := none, paired := false, literal := literalNumber, set := setProperty } text

section Reading

variable {ν : Type}

def Json.fields? : Json ν → Option (JsonObject ν)
  | .object fields => some fields
  | _ => none

def Json.items? : Json ν → Option (List (Json ν))
  | .array items => some items
  | _ => none

def Json.text? : Json ν → Option JsString
  | .string text => some text
  | _ => none

def Json.filled? : Json ν → Option JsString
  | .string [] => none
  | .string text => some text
  | _ => none

def Json.number? : Json ν → Option ν
  | .number value => some value
  | _ => none

def JsonObject.get (object : JsonObject ν) (name : String) : Option (Json ν) := object.lookup (js name)

end Reading

def get? {ν : Type} (object : Option (JsonObject ν)) (name : String) : Option (Json ν) :=
  object.bind fun fields => fields.get name

section Fields

variable {ν : Type} {fields : JsonObject ν} {key other : JsString}

theorem lookup_setEntry_ne (differs : other ≠ key) (value : Json ν) : (setEntry fields key value).lookup other = fields.lookup other := by
  have apart : (other == key) = false := beq_eq_false_iff_ne.mpr differs
  unfold setEntry
  split
  · next here =>
    clear here
    induction fields with
    | nil => rfl
    | cons field rest ih =>
      rw [List.map_cons]
      by_cases same : field.1 = key
      · rw [if_pos same, List.lookup_cons, List.lookup_cons, same, apart]
        exact ih
      · rw [if_neg same, List.lookup_cons, List.lookup_cons]
        cases other == field.1 with
        | true => rfl
        | false => exact ih
  · rw [List.lookup_append]
    simp [List.lookup_cons, apart]

theorem lookup_setProperty_ne (differs : other ≠ key) (value : Json ν) :
    (setProperty fields key value).lookup other = fields.lookup other := by
  have apart : (other == key) = false := beq_eq_false_iff_ne.mpr differs
  unfold setProperty
  split
  · exact lookup_setEntry_ne differs value
  · split
    · rw [List.lookup_append]
      simp [List.lookup_cons, apart]
    · next index _ =>
      dsimp only
      rw [List.lookup_append, List.lookup_cons, apart]
      dsimp only
      rw [← List.lookup_append, List.takeWhile_append_dropWhile]

theorem lookup_filter_ne (differs : other ≠ key) : (fields.filter fun field => field.1 ≠ key).lookup other = fields.lookup other := by
  induction fields with
  | nil => rfl
  | cons field rest ih =>
    by_cases same : field.1 = key
    · have apart : (other == field.1) = false := beq_eq_false_iff_ne.mpr (same ▸ differs)
      rw [List.filter_cons_of_neg (by simpa using same), List.lookup_cons, apart]
      exact ih
    · rw [List.filter_cons_of_pos (by simpa using same), List.lookup_cons, List.lookup_cons, ih]

end Fields

section Writing

variable {ν : Type}

def hexUnit (digit : Nat) : CodeUnit := (if digit < 10 then 0x30 + digit else 0x61 + (digit - 10)).toUInt16

def unicodeEscape (unit : CodeUnit) : JsString :=
  let code := unit.toNat
  [0x5C, 0x75, hexUnit (code / 4096), hexUnit (code / 256 % 16), hexUnit (code / 16 % 16), hexUnit (code % 16)]

def escapeUnit (unit : CodeUnit) : JsString :=
  if unit = 0x22 then [0x5C, 0x22]
  else if unit = 0x5C then [0x5C, 0x5C]
  else if unit = 0x08 then [0x5C, 0x62]
  else if unit = 0x0C then [0x5C, 0x66]
  else if unit = 0x0A then [0x5C, 0x6E]
  else if unit = 0x0D then [0x5C, 0x72]
  else if unit = 0x09 then [0x5C, 0x74]
  else if unit < 0x20 then unicodeEscape unit
  else [unit]

mutual

def writeJson (string : JsString → JsString) (number : ν → JsString) : Json ν → JsString
  | .null => js "null"
  | .bool true => js "true"
  | .bool false => js "false"
  | .number value => number value
  | .string text => string text
  | .array items => [0x5B] ++ writeItems string number items ++ [0x5D]
  | .object fields => [0x7B] ++ writeFields string number fields ++ [0x7D]

def writeItems (string : JsString → JsString) (number : ν → JsString) : List (Json ν) → JsString
  | [] => []
  | [item] => writeJson string number item
  | item :: rest => writeJson string number item ++ [0x2C] ++ writeItems string number rest

def writeFields (string : JsString → JsString) (number : ν → JsString) :
    List (JsString × Json ν) → JsString
  | [] => []
  | [(key, value)] => string key ++ [0x3A] ++ writeJson string number value
  | (key, value) :: rest =>
      string key ++ [0x3A] ++ writeJson string number value ++ [0x2C] ++ writeFields string number rest

end

def stringifyUnit (unit : CodeUnit) : JsString :=
  if isHighSurrogate unit || isLowSurrogate unit then unicodeEscape unit
  else escapeUnit unit

def stringifyUnits : JsString → JsString
  | [] => []
  | [unit] => stringifyUnit unit
  | unit :: next :: rest =>
      if isHighSurrogate unit && isLowSurrogate next then
        unit :: next :: stringifyUnits rest
      else stringifyUnit unit ++ stringifyUnits (next :: rest)

def stringifyText (text : JsString) : JsString := [0x22] ++ stringifyUnits text ++ [0x22]

/-- `JSON.stringify`, given how finite numbers are written. -/
def stringify (decimal : ℚ → JsString) : JsValue → JsString :=
  writeJson stringifyText fun
    | .finite value => decimal value
    | _ => js "null"

end Writing

example : (parseJs (js "[1, [\"\\u0041\", null] ] ")).map (stringify fun _ => js "0") =
    some (js "[0,[\"A\",null]]") := by decide +kernel

end SpaceApp.Foundation
