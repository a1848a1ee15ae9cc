import SpaceApp.Foundation.Json

/-! The numbers and strings of the grammar of JSON texts (RFC 8259) over code units, and the parser's answers as their
derivations.

A grammar reads a number literal in its own way. With `paired` an escape of a surrogate is half of a pair.
-/

set_option autoImplicit false

namespace SpaceApp.Foundation

open JsonParser

namespace JsonGrammar

def Blanks (text : JsString) : Prop := ∀ unit ∈ text, isBlank unit = true

/-- `1*DIGIT`. -/
structure Digits (text : JsString) : Prop where
  filled : text ≠ []
  digit : ∀ unit ∈ text, isDigitUnit unit = true

/-- `int = zero / ( digit1-9 *DIGIT )`. -/
inductive IntText : JsString → Prop where
  | zero : IntText [zero]
  | digits {first : CodeUnit} {rest : JsString} (first_ : isDigitUnit first = true) (positive : first ≠ JsonParser.zero)
      (rest_ : ∀ unit ∈ rest, isDigitUnit unit = true) : IntText (first :: rest)

/-- `[ frac ]`, `frac = decimal-point 1*DIGIT`. -/
inductive FractionText : JsString → Prop where
  | absent : FractionText []
  | present {digits : JsString} (some_ : Digits digits) : FractionText (0x2E :: digits)

/-- `[ exp ]`, `exp = e [ minus / plus ] 1*DIGIT`. -/
inductive ExponentText : JsString → Prop where
  | absent : ExponentText []
  | present {letter : CodeUnit} {sign digits : JsString} (e : letter = 0x65 ∨ letter = 0x45)
      (signed : sign = [] ∨ sign = [0x2B] ∨ sign = [minus]) (some_ : Digits digits) : ExponentText (letter :: (sign ++ digits))

/-- `number = [ minus ] int [ frac ] [ exp ]`. -/
inductive NumberText : JsString → Prop where
  | number {sign whole fraction exponent : JsString} (signed : sign = [] ∨ sign = [minus]) (whole_ : IntText whole)
      (fraction_ : FractionText fraction) (exponent_ : ExponentText exponent) :
      NumberText (sign ++ (whole ++ (fraction ++ exponent)))

/-- `*char`, and the code units it stands for. -/
inductive CharsText (paired : Bool) : JsString → JsString → Prop where
  | done : CharsText paired [] []
  | unescaped {unit : CodeUnit} {source text : JsString} (printable : ¬ unit < 0x20)
      (plain : unit ≠ quote ∧ unit ≠ backslash) (rest : CharsText paired source text) :
      CharsText paired (unit :: source) (unit :: text)
  | simple {escape meant : CodeUnit} {source text : JsString} (named : simpleEscapes.lookup escape = some meant)
      (rest : CharsText paired source text) : CharsText paired (backslash :: escape :: source) (meant :: text)
  | code {a b c d unit : CodeUnit} {source text : JsString} (hex : hex4 a b c d = some unit)
      (free : paired = true → isHighSurrogate unit = false ∧ isLowSurrogate unit = false)
      (rest : CharsText paired source text) :
      CharsText paired (backslash :: 0x75 :: a :: b :: c :: d :: source) (unit :: text)
  | pair {a b c d high a' b' c' d' low : CodeUnit} {source text : JsString} (pairs : paired = true)
      (hexHigh : hex4 a b c d = some high) (high_ : isHighSurrogate high = true)
      (hexLow : hex4 a' b' c' d' = some low) (low_ : isLowSurrogate low = true) (rest : CharsText paired source text) :
      CharsText paired (backslash :: 0x75 :: a :: b :: c :: d :: backslash :: 0x75 :: a' :: b' :: c' :: d' :: source)
        (high :: low :: text)

/-! ## Blanks and digits -/

theorem Blanks.append {left right : JsString} (first : Blanks left) (second : Blanks right) : Blanks (left ++ right) := by
  intro unit inside
  exact (List.mem_append.mp inside).elim (first unit) (second unit)

theorem Blanks.nil : Blanks [] := by simp [Blanks]

theorem skipWhitespace_blanks {blanks : JsString} (blank : Blanks blanks) (text : JsString) :
    skipWhitespace (blanks ++ text) = skipWhitespace text := by
  unfold skipWhitespace
  rw [List.dropWhile_append_of_pos blank]

theorem skipWhitespace_stop {unit : CodeUnit} (visible : isBlank unit = false) (text : JsString) :
    skipWhitespace (unit :: text) = unit :: text := by simp [skipWhitespace, visible]

theorem skipWhitespace_split (text : JsString) : ∃ blanks, text = blanks ++ skipWhitespace text ∧ Blanks blanks :=
  ⟨text.takeWhile isBlank, (List.takeWhile_append_dropWhile).symm, fun _ inside => List.mem_takeWhile_imp inside⟩

theorem skipWhitespace_nil {text : JsString} (none_ : skipWhitespace text = []) : Blanks text := by
  obtain ⟨blanks, same, blank⟩ := skipWhitespace_split text
  rw [none_, List.append_nil] at same
  exact same ▸ blank

/-- What may stand behind a value. -/
def Ends (text : JsString) : Prop :=
  ∀ unit, text.head? = some unit → isBlank unit = true ∨ unit = comma ∨ unit = closeBrace ∨ unit = closeBracket

theorem Ends.nil : Ends [] := by simp [Ends]

theorem Ends.blanks {blanks : JsString} (blank : Blanks blanks) {text : JsString} (ends : Ends text) : Ends (blanks ++ text) := by
  cases blanks with
  | nil => exact ends
  | cons first rest =>
    intro unit found
    cases found
    exact .inl (blank first List.mem_cons_self)

theorem Ends.sign {unit : CodeUnit} (sign : unit = comma ∨ unit = closeBrace ∨ unit = closeBracket) (text : JsString) :
    Ends (unit :: text) := by
  intro other found
  cases found
  exact .inr sign

theorem Ends.unlike {text : JsString} (ends : Ends text) {unit : CodeUnit} (found : text.head? = some unit) :
    isDigitUnit unit = false ∧ unit ≠ 0x2E ∧ unit ≠ 0x65 ∧ unit ≠ 0x45 := by
  have visible : ∀ blank : CodeUnit, isBlank blank = true →
      blank = 0x20 ∨ blank = 0x09 ∨ blank = 0x0A ∨ blank = 0x0D := by
    simpa [isBlank, or_assoc] using is
  rcases ends unit found with blank | rfl | rfl | rfl
  · rcases visible unit blank with rfl | rfl | rfl | rfl <;> decide
  · decide
  · decide
  · decide

/-! ## Numbers -/

theorem digits_sound {text rest : JsString} (found : digits text = some rest) : ∃ source, text = source ++ rest ∧ Digits source := by
  unfold digits at found
  split at found
  · cases found
  · next some_ =>
    cases found
    refine ⟨text.takeWhile isDigitUnit, (List.takeWhile_append_dropWhile).symm, ?_, fun unit inside => List.mem_takeWhile_imp inside⟩
    simpa using some_

theorem digits_complete {source rest : JsString} (some_ : Digits source) (ends : ∀ unit, rest.head? = some unit → isDigitUnit unit = false) :
    digits (source ++ rest) = some rest := by
  have stops : rest.takeWhile isDigitUnit = [] ∧ rest.dropWhile isDigitUnit = rest := by
    cases rest with
    | nil => simp
    | cons unit rest => simp [ends unit rfl]
  unfold digits
  rw [List.takeWhile_append_of_pos some_.digit, List.dropWhile_append_of_pos some_.digit, stops.1, stops.2]
  simp [some_.filled]

theorem wholePart_sound {text rest : JsString} (found : wholePart text = some rest) : ∃ source, text = source ++ rest ∧ IntText source := by
  unfold wholePart at found
  split at found
  · next begins =>
    split at found
    · cases found
    · cases found
      cases text with
      | nil => cases begins
      | cons unit rest =>
        cases begins
        exact ⟨[zero], rfl, .zero⟩
  · next other =>
    obtain ⟨source, same, some_⟩ := digits_sound found
    refine ⟨source, same, ?_⟩
    cases source with
    | nil => exact absurd rfl some_.filled
    | cons first more =>
      refine .digits (some_.digit first List.mem_cons_self) ?_ fun unit inside => some_.digit unit (List.mem_cons_of_mem _ inside)
      rintro rfl
      exact other (by rw [same]; rfl)

theorem wholePart_complete {source rest : JsString} (whole : IntText source)
    (ends : ∀ unit, rest.head? = some unit → isDigitUnit unit = false) : wholePart (source ++ rest) = some rest := by
  cases whole with
  | zero =>
    have stops : rest.head?.any isDigitUnit = false := by
      cases found : rest.head? with
      | none => rfl
      | some unit => simpa using ends unit found
    simp [wholePart, stops]
  | @digits first more first_ positive rest_ =>
    have some_ : Digits (first :: more) := ⟨by simp, by simpa using ⟨first_, rest_⟩⟩
    rw [wholePart, if_neg (by simpa using positive)]
    exact digits_complete some_ ends

theorem fractionPart_sound {text rest : JsString} (found : fractionPart text = some rest) :
    ∃ source, text = source ++ rest ∧ FractionText source := by
  unfold fractionPart at found
  split at found
  · next begins =>
    obtain ⟨source, same, some_⟩ := digits_sound found
    cases text with
    | nil => cases begins
    | cons unit text =>
      cases begins
      exact ⟨0x2E :: source, by rw [List.cons_append, ← same]; rfl, .present some_⟩
  · cases found
    exact ⟨[], rfl, .absent⟩

theorem fractionPart_complete {source rest : JsString} (fraction : FractionText source)
    (ends : ∀ unit, rest.head? = some unit → isDigitUnit unit = false ∧ unit ≠ 0x2E) : fractionPart (source ++ rest) = some rest := by
  cases fraction with
  | absent =>
    rw [fractionPart, if_neg]
    · rfl
    · exact fun begins => (ends _ begins).2 rfl
  | present some_ =>
    exact digits_complete some_ fun unit found => (ends unit found).1

theorem afterSign_split (signs : List CodeUnit) (text : JsString) :
    ∃ sign, text = sign ++ afterSign signs text ∧ (sign = [] ∨ ∃ unit ∈ signs, sign = [unit]) := by
  unfold afterSign
  split
  · next begins =>
    cases text with
    | nil => cases begins
    | cons unit text => exact ⟨[unit], rfl, .inr ⟨unit, by simpa using begins, rfl⟩⟩
  · exact ⟨[], rfl, .inl rfl⟩

theorem afterSign_skip {signs : List CodeUnit} {text : JsString} (begins : ∀ unit, text.head? = some unit → unit ∉ signs) :
    afterSign signs text = text := by
  cases text with
  | nil => rfl
  | cons unit text => simp [afterSign, begins unit rfl]

theorem afterSign_sign {signs : List CodeUnit} {unit : CodeUnit} (inside : unit ∈ signs) (text : JsString) :
    afterSign signs (unit :: text) = text := by simp [afterSign, inside]

theorem exponentPart_sound {text rest : JsString} (found : exponentPart text = some rest) :
    ∃ source, text = source ++ rest ∧ ExponentText source := by
  unfold exponentPart at found
  split at found
  · next begins =>
    obtain ⟨source, same, some_⟩ := digits_sound found
    obtain ⟨sign, split, signed⟩ := afterSign_split [0x2B, minus] (text.drop 1)
    cases text with
    | nil => simp at begins
    | cons letter text =>
      refine ⟨letter :: (sign ++ source), ?_, .present (by simpa using begins) ?_ some_⟩
      · rw [List.cons_append, List.append_assoc, ← same, ← split]
        rfl
      · rcases signed with rfl | ⟨unit, inside, rfl⟩
        · exact .inl rfl
        · exact .inr (by simpa using inside)
  · cases found
    exact ⟨[], rfl, .absent⟩

theorem Digits.unsigned {source : JsString} (some_ : Digits source) (rest : JsString) :
    ∀ unit, (source ++ rest).head? = some unit → unit ∉ [0x2B, minus] := by
  intro unit found inside
  obtain ⟨first, more, same⟩ := List.exists_cons_of_ne_nil some_.filled
  rw [same] at found
  cases found
  have digit := some_.digit unit (same ▸ List.mem_cons_self)
  rcases List.mem_pair.mp inside with rfl | rfl
  · exact absurd digit (by decide)
  · exact absurd digit (by decide)

theorem exponentPart_complete {source rest : JsString} (exponent : ExponentText source)
    (ends : ∀ unit, rest.head? = some unit → isDigitUnit unit = false ∧ unit ≠ 0x65 ∧ unit ≠ 0x45) :
    exponentPart (source ++ rest) = some rest := by
  cases exponent with
  | absent =>
    rw [exponentPart, if_neg]
    · rfl
    · rintro (begins | begins)
      · exact (ends _ begins).2.1 rfl
      · exact (ends _ begins).2.2 rfl
  | @present letter sign digits_ e signed some_ =>
    have read := digits_complete some_ fun unit found => (ends unit found).1
    have unsigned : afterSign [0x2B, minus] (sign ++ (digits_ ++ rest)) = digits_ ++ rest := by
      rcases signed with rfl | rfl | rfl
      · exact afterSign_skip (some_.unsigned rest)
      · exact afterSign_sign (by simp) _
      · exact afterSign_sign (by simp) _
    rw [exponentPart, if_pos (by simpa using e)]
    simp only [List.cons_append, List.append_assoc, List.drop_succ_cons, List.drop_zero, unsigned, read]

theorem numberRest_sound {text rest : JsString} (found : numberRest text = some rest) :
    ∃ source, text = source ++ rest ∧ NumberText source := by
  obtain ⟨whole, wholeFound, later⟩ := Option.bind_eq_some_iff.mp found
  obtain ⟨fraction, fractionFound, exponentFound⟩ := Option.bind_eq_some_iff.mp later
  obtain ⟨sign, split, signed⟩ := afterSign_split [minus] text
  obtain ⟨first, sameFirst, whole_⟩ := wholePart_sound wholeFound
  obtain ⟨second, sameSecond, fraction_⟩ := fractionPart_sound fractionFound
  obtain ⟨third, sameThird, exponent_⟩ := exponentPart_sound exponentFound
  refine ⟨sign ++ (first ++ (second ++ third)), ?_, .number ?_ whole_ fraction_ exponent_⟩
  · rw [split, sameFirst, sameSecond, sameThird]
    simp
  · simpa using signed

theorem numberRest_complete {source rest : JsString} (number : NumberText source) (ends : Ends rest) :
    numberRest (source ++ rest) = some rest := by
  cases number with
  | @number sign whole fraction exponent signed whole_ fraction_ exponent_ =>
    have exponentRead := exponentPart_complete exponent_ fun unit found =>
      ⟨(ends.unlike found).1, (ends.unlike found).2.2⟩
    have behindFraction : ∀ unit, (exponent ++ rest).head? = some unit → isDigitUnit unit = false ∧ unit ≠ 0x2E := by
      intro unit found
      cases exponent_ with
      | absent => exact ⟨(ends.unlike found).1, (ends.unlike found).2.1⟩
      | present e =>
        cases found
        rcases e with rfl | rfl <;> decide
    have fractionRead := fractionPart_complete fraction_ behindFraction
    have behindWhole : ∀ unit, (fraction ++ (exponent ++ rest)).head? = some unit → isDigitUnit unit = false := by
      intro unit found
      cases fraction_ with
      | absent => exact (behindFraction unit found).1
      | present =>
        cases found
        decide
    have wholeRead := wholePart_complete whole_ behindWhole
    have unsigned : afterSign [minus] (sign ++ (whole ++ (fraction ++ (exponent ++ rest)))) =
        whole ++ (fraction ++ (exponent ++ rest)) := by
      rcases signed with rfl | rfl
      · refine afterSign_skip fun unit found => ?_
        cases whole_ with
        | zero =>
          cases found
          decide
        | digits first_ =>
          cases found
          rintro inside
          rw [List.mem_singleton.mp inside] at first_
          exact absurd first_ (by decide)
      · exact afterSign_sign (by simp) _
    simp only [numberRest, List.append_assoc, unsigned, wholeRead, Option.bind_some, fractionRead, exponentRead]

theorem NumberText.head {source : JsString} (number : NumberText source) :
    ∃ unit rest, source = unit :: rest ∧ (unit = minus ∨ isDigitUnit unit = true) := by
  cases number with
  | number signed whole_ =>
    rcases signed with rfl | rfl
    · cases whole_ with
      | zero => exact ⟨zero, _, rfl, .inr (by decide)⟩
      | digits first_ => exact ⟨_, _, rfl, .inr first_⟩
    · exact ⟨minus, _, rfl, .inl rfl⟩

/-! ## Strings -/

theorem cons_inner {unit : CodeUnit} {parsed : Option (JsString × JsString)} {text rest : JsString}
    (same : cons unit parsed = some (text, rest)) : ∃ inner, parsed = some (inner, rest) ∧ text = unit :: inner := by
  obtain ⟨⟨inner, behind⟩, found, equal⟩ := Option.map_eq_some_iff.mp same
  cases equal
  exact ⟨inner, found, rfl⟩

theorem string_sound {paired : Bool} {source text rest : JsString} (found : string paired source = some (text, rest)) :
    ∃ chars, source = chars ++ quote :: rest ∧ CharsText paired chars text := by
  fun_induction string paired source generalizing text rest with
  | case3 rest unit =>
    cases found
    exact ⟨[], rfl, .done⟩
  | case4 unit source small ends plain ih =>
    obtain ⟨inner, parsed, rfl⟩ := cons_inner found
    obtain ⟨chars, rfl, derived⟩ := ih parsed
    exact ⟨unit :: chars, rfl, .unescaped small ⟨ends, plain⟩ derived⟩
  | case6 unit small ends escaped escape source meant named ih =>
    obtain ⟨inner, parsed, rfl⟩ := cons_inner found
    obtain ⟨chars, rfl, derived⟩ := ih parsed
    obtain rfl : unit = backslash := not_not.mp escaped
    exact ⟨backslash :: escape :: chars, rfl, .simple named derived⟩
  | case9 unit small ends escaped escape named u a b c d source code hex free ih =>
    obtain ⟨inner, parsed, rfl⟩ := cons_inner found
    obtain ⟨chars, rfl, derived⟩ := ih parsed
    obtain rfl : unit = backslash := not_not.mp escaped
    obtain rfl : escape = 0x75 := not_not.mp u
    refine ⟨backslash :: 0x75 :: a :: b :: c :: d :: chars, rfl, .code hex (fun pairs => ?_) derived⟩
    simpa [pairs] using free
  | case12 unit small ends escaped escape named u a b c d high hexHigh half highHalf first second a' b' c' d' source begins low hexLow
      lowHalf ih =>
    obtain ⟨outer, halfParsed, rfl⟩ := cons_inner found
    obtain ⟨inner, parsed, rfl⟩ := cons_inner halfParsed
    obtain ⟨chars, rfl, derived⟩ := ih parsed
    obtain rfl : unit = backslash := not_not.mp escaped
    obtain rfl : escape = 0x75 := not_not.mp u
    obtain ⟨rfl, rfl⟩ := begins
    have surrogate : paired = true ∧ isHighSurrogate high = true := by
      simp only [not_or, not_not, not_and] at half
      exact ⟨half.1, by_contra fun other => highHalf (half.2 other)⟩
    exact ⟨backslash :: 0x75 :: a :: b :: c :: d :: backslash :: 0x75 :: a' :: b' :: c' :: d' :: chars, rfl,
      .pair surrogate.1 hexHigh surrogate.2 hexLow lowHalf derived⟩
  | _ => cases found

section

variable {paired : Bool} {rest : JsString}

theorem string_quote : string paired (quote :: rest) = some ([], rest) := by
  rw [string.eq_def]
  simp [quote]

theorem string_unescaped {unit : CodeUnit} (printable : ¬ unit < 0x20) (plain : unit ≠ quote ∧ unit ≠ backslash) :
    string paired (unit :: rest) = cons unit (string paired rest) := by
  rw [string.eq_def]
  simp [printable, plain.1, plain.2]

theorem string_simple {escape meant : CodeUnit} (named : simpleEscapes.lookup escape = some meant) :
    string paired (backslash :: escape :: rest) = cons meant (string paired rest) := by
  have visible : ¬ backslash < 0x20 ∧ backslash ≠ quote := by decide
  rw [string.eq_def]
  simp [visible.1, visible.2, named]

theorem string_code {a b c d unit : CodeUnit} (hex : hex4 a b c d = some unit)
    (free : paired = true → isHighSurrogate unit = false ∧ isLowSurrogate unit = false) :
    string paired (backslash :: 0x75 :: a :: b :: c :: d :: rest) = cons unit (string paired rest) := by
  have visible : ¬ backslash < 0x20 ∧ backslash ≠ quote := by decide
  have unnamed : simpleEscapes.lookup 0x75 = none := by decide
  have open_ : paired = false ∨ isHighSurrogate unit = false ∧ isLowSurrogate unit = false := by
    cases paired with
    | false => exact .inl rfl
    | true => exact .inr (free rfl)
  rw [string.eq_def]
  simp [visible.1, visible.2, unnamed, hex, open_]

theorem string_pair {a b c d high a' b' c' d' low : CodeUnit} (pairs : paired = true) (hexHigh : hex4 a b c d = some high)
    (high_ : isHighSurrogate high = true) (hexLow : hex4 a' b' c' d' = some low) (low_ : isLowSurrogate low = true) :
    string paired (backslash :: 0x75 :: a :: b :: c :: d :: backslash :: 0x75 :: a' :: b' :: c' :: d' :: rest) =
      cons high (cons low (string paired rest)) := by
  have visible : ¬ backslash < 0x20 ∧ backslash ≠ quote := by decide
  have unnamed : simpleEscapes.lookup 0x75 = none := by decide
  have other : isLowSurrogate high = false := by
    rw [Bool.eq_false_iff]
    simp only [isHighSurrogate, isLowSurrogate, Bool.and_eq_true, decide_eq_true_eq, UInt16.le_iff_toNat_le, ne_eq] at high_ ⊢
    have upper : UInt16.toNat 0xDBFF = 0xDBFF ∧ UInt16.toNat 0xDC00 = 0xDC00 := by decide
    omega
  rw [string.eq_def]
  simp [visible.1, visible.2, unnamed, hexHigh, pairs, high_, other, hexLow, low_]

end

theorem string_complete {paired : Bool} {source text : JsString} (chars : CharsText paired source text) (rest : JsString) :
    string paired (source ++ quote :: rest) = some (text, rest) := by
  induction chars with
  | done => exact string_quote
  | unescaped printable plain _ ih =>
    rw [List.cons_append, string_unescaped printable plain, ih]
    rfl
  | simple named _ ih =>
    rw [List.cons_append, List.cons_append, string_simple named, ih]
    rfl
  | code hex free _ ih =>
    simp only [List.cons_append]
    rw [string_code hex free, ih]
    rfl
  | pair pairs hexHigh high_ hexLow low_ _ ih =>
    simp only [List.cons_append]
    rw [string_pair pairs hexHigh high_ hexLow low_, ih]
    rfl

theorem string_length {paired : Bool} {source text rest : JsString} (found : string paired source = some (text, rest)) :
    rest.length < source.length := by
  obtain ⟨chars, rfl, -⟩ := string_sound found
  rw [List.length_append, List.length_cons]
  omega

end JsonGrammar

end SpaceApp.Foundation
