import SpaceApp.Foundation.JsText

/-! `TextDecoder` in streaming mode: UTF-8 bytes to text, a machine over single bytes,
so that a character may arrive in pieces. Malformed bytes become U+FFFD, and a byte
order mark at the very start is dropped. `TextEncoder` goes the other way.
-/

set_option autoImplicit false

namespace SpaceApp.Foundation

/-- A character begun: how many bytes it still needs, its bits so far, and the range the
next byte must be in. -/
structure Utf8Partial where
  needed : Nat
  code : Nat
  lower : Nat := 0x80
  upper : Nat := 0xBF
  deriving DecidableEq, Repr

structure TextDecoder where
  partial_ : Option Utf8Partial := none
  /-- The byte order mark can only be the first character. -/
  started : Bool := false
  deriving DecidableEq, Repr

namespace TextDecoder

def replacement : Nat := 0xFFFD

/-- A byte where no character is begun. -/
def lead (byte : Nat) : Option Utf8Partial × List Nat :=
  if byte ≤ 0x7F then (none, [byte])
  else if 0xC2 ≤ byte ∧ byte ≤ 0xDF then (some { needed := 1, code := byte - 0xC0 }, [])
  else if 0xE0 ≤ byte ∧ byte ≤ 0xEF then
    (some {
      needed := 2
      code := byte - 0xE0
      lower := if byte = 0xE0 then 0xA0 else 0x80
      upper := if byte = 0xED then 0x9F else 0xBF }, [])
  else if 0xF0 ≤ byte ∧ byte ≤ 0xF4 then
    (some {
      needed := 3
      code := byte - 0xF0
      lower := if byte = 0xF0 then 0x90 else 0x80
      upper := if byte = 0xF4 then 0x8F else 0xBF }, [])
  else (none, [replacement])

/-- One byte; one that cannot continue the character begun is read again as a lead byte. -/
def accept (begun : Option Utf8Partial) (byte : Nat) : Option Utf8Partial × List Nat :=
  match begun with
  | none => lead byte
  | some character =>
      if byte < character.lower ∨ character.upper < byte then
        let (next, codes) := lead byte
        (next, replacement :: codes)
      else
        let code := character.code * 0x40 + (byte - 0x80)
        if character.needed ≤ 1 then (none, [code])
        else (some { needed := character.needed - 1, code }, [])

/-- The text of the code points, less a byte order mark before everything else. -/
def emit (started : Bool) (codes : List Nat) : JsString :=
  match started, codes with
  | false, 0xFEFF :: rest => rest.flatMap unitsOf
  | _, codes => codes.flatMap unitsOf

def decodeByte (decoder : TextDecoder) (byte : UInt8) : TextDecoder × JsString :=
  let (partial_, codes) := accept decoder.partial_ byte.toNat
  ({ partial_, started := decoder.started || !codes.isEmpty }, emit decoder.started codes)

/-- `decode(chunk, { stream: true })`. -/
def decode (decoder : TextDecoder) : List UInt8 → TextDecoder × JsString
  | [] => (decoder, [])
  | byte :: rest =>
      let (next, text) := decodeByte decoder byte
      let (last, more) := decode next rest
      (last, text ++ more)

/-- A stream decodes the same however it is cut. -/
theorem decode_append (decoder : TextDecoder) (first second : List UInt8) : decode decoder (first ++ second) =
      ((decode (decode decoder first).1 second).1,
        (decode decoder first).2 ++ (decode (decode decoder first).1 second).2) := by
  induction first generalizing decoder with
  | nil => simp [decode]
  | cons byte rest ih => simp [decode, ih]

/-- Plain ASCII text decodes byte by byte. -/
theorem decode_ascii (decoder : TextDecoder) (plain : decoder.partial_ = none) (bytes : List UInt8)
    (ascii : ∀ byte ∈ bytes, byte.toNat ≤ 0x7F) : (decode decoder bytes).1.partial_ = none ∧
      (decode decoder bytes).2 = bytes.map fun byte => byte.toNat.toUInt16 := by
  induction bytes generalizing decoder with
  | nil => exact ⟨plain, rfl⟩
  | cons byte rest ih =>
    have small := ascii byte List.mem_cons_self
    have accepted : accept decoder.partial_ byte.toNat = (none, [byte.toNat]) := by
      rw [plain]
      simp [accept, lead, small]
    have text : emit decoder.started [byte.toNat] = [byte.toNat.toUInt16] := by
      have notMark : byte.toNat ≠ 0xFEFF := by omega
      have units : unitsOf byte.toNat = [byte.toNat.toUInt16] := by
        unfold unitsOf
        rw [if_pos (by omega)]
      unfold emit
      split
      · next same =>
        simp only [List.cons.injEq] at same
        exact absurd same.1 notMark
      · simp [units]
    obtain ⟨later, same⟩ := ih { partial_ := none, started := true } rfl
      fun other member => ascii other (List.mem_cons_of_mem _ member)
    simp only [decode, decodeByte, accepted, text, List.isEmpty_cons, Bool.not_false, Bool.or_true,
      List.map_cons]
    exact ⟨later, by rw [same]; rfl⟩

end TextDecoder

namespace TextEncoder

def encodeCode (code : Nat) : List UInt8 :=
  if code < 0x80 then [code.toUInt8]
  else if code < 0x800 then [(0xC0 + code / 0x40).toUInt8, (0x80 + code % 0x40).toUInt8]
  else if code < 0x10000 then
    [(0xE0 + code / 0x1000).toUInt8, (0x80 + code / 0x40 % 0x40).toUInt8, (0x80 + code % 0x40).toUInt8]
  else
    [(0xF0 + code / 0x40000).toUInt8, (0x80 + code / 0x1000 % 0x40).toUInt8,
      (0x80 + code / 0x40 % 0x40).toUInt8, (0x80 + code % 0x40).toUInt8]

/-- A unit that is no character of its own becomes U+FFFD. -/
def encodeUnit (unit : CodeUnit) : List UInt8 :=
  encodeCode (if isHighSurrogate unit || isLowSurrogate unit then TextDecoder.replacement else unit.toNat)

def encode : JsString → List UInt8
  | [] => []
  | [unit] => encodeUnit unit
  | high :: low :: rest =>
      if isHighSurrogate high && isLowSurrogate low then
        encodeCode (0x10000 + (high.toNat - 0xD800) * 0x400 + (low.toNat - 0xDC00)) ++ encode rest
      else encodeUnit high ++ encode (low :: rest)

/-- The text does not end in half a character. -/
def Whole (text : JsString) : Prop := (text.getLast?.all fun unit => !isHighSurrogate unit) = true

theorem Whole.append {first second : JsString} (left : Whole first) (right : Whole second) :
    Whole (first ++ second) := by
  unfold Whole at *
  rw [List.getLast?_append]
  cases last : second.getLast? with
  | none => exact left
  | some unit => rwa [last] at right

theorem encode_append (first second : JsString) (whole : Whole first) :
    encode (first ++ second) = encode first ++ encode second := by
  unfold Whole at whole
  fun_induction encode first with
  | case1 => rfl
  | case2 unit =>
    cases second with
    | nil => simp [encode]
    | cons next rest =>
      simp only [List.getLast?_singleton, Option.all_some, Bool.not_eq_true'] at whole
      simp [encode, whole]
  | case3 high low rest pair ih =>
    have later : (rest.getLast?.all fun unit => !isHighSurrogate unit) = true := by
      cases rest with
      | nil => rfl
      | cons next rest => simpa using whole
    simp only [List.cons_append, encode, pair, if_true, ih later, List.append_assoc]
  | case4 high low rest apart ih =>
    have later : ((low :: rest).getLast?.all fun unit => !isHighSurrogate unit) = true := by simpa using whole
    rw [List.cons_append, List.cons_append, encode, if_neg apart, ← List.cons_append, ih later, List.append_assoc]

end TextEncoder

end SpaceApp.Foundation
