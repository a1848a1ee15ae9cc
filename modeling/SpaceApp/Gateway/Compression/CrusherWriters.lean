import SpaceApp.Gateway.Compression.CrusherJson

/-! What the crusher writes, its parser reads: a written value is a derivation of the grammar with the value itself.
-/

set_option autoImplicit false

namespace SpaceApp.Gateway.Compression

open SpaceApp.Foundation JsonGrammar

mutual

/-- Numbers hold number literals, and an object is a `Map`. -/
def WellFormed : JsonValue → Prop
  | .number raw => NumberText raw
  | .array items => WellFormedItems items
  | .object fields => (fields.map Prod.fst).Nodup ∧ WellFormedFields fields
  | _ => True

def WellFormedItems : List JsonValue → Prop
  | [] => True
  | item :: rest => WellFormed item ∧ WellFormedItems rest

def WellFormedFields : List (JsString × JsonValue) → Prop
  | [] => True
  | (_, value) :: rest => WellFormed value ∧ WellFormedFields rest

end

mutual

def nesting : JsonValue → ℕ
  | .array items => nestingItems items + 1
  | .object fields => nestingFields fields + 1
  | _ => 0

def nestingItems : List JsonValue → ℕ
  | [] => 0
  | item :: rest => max (nesting item) (nestingItems rest)

def nestingFields : List (JsString × JsonValue) → ℕ
  | [] => 0
  | (_, value) :: rest => max (nesting value) (nestingFields rest)

end

def wholePairs : JsString → Bool
  | [] => true
  | [unit] => !isHighSurrogate unit && !isLowSurrogate unit
  | unit :: next :: rest =>
      if isHighSurrogate unit then isLowSurrogate next && wholePairs rest
      else !isLowSurrogate unit && wholePairs (next :: rest)

mutual

def EveryString (good : JsString → Prop) : JsonValue → Prop
  | .string text => good text
  | .array items => EveryStringItems good items
  | .object fields => EveryStringFields good fields
  | _ => True

def EveryStringItems (good : JsString → Prop) : List JsonValue → Prop
  | [] => True
  | item :: rest => EveryString good item ∧ EveryStringItems good rest

def EveryStringFields (good : JsString → Prop) : List (JsString × JsonValue) → Prop
  | [] => True
  | (key, value) :: rest => good key ∧ EveryString good value ∧ EveryStringFields good rest

end

theorem hexDigit_hexUnit : ∀ digit < 16, JsonParser.hexDigit (hexUnit digit) = some digit := by decide

theorem hex4_unit (unit : CodeUnit) : JsonParser.hex4 (hexUnit (unit.toNat / 4096)) (hexUnit (unit.toNat / 256 % 16))
    (hexUnit (unit.toNat / 16 % 16)) (hexUnit (unit.toNat % 16)) = some unit := by
  have small := unit.toNat_lt
  have first := hexDigit_hexUnit (unit.toNat / 4096) (by omega)
  have second := hexDigit_hexUnit (unit.toNat / 256 % 16) (by omega)
  have third := hexDigit_hexUnit (unit.toNat / 16 % 16) (by omega)
  have fourth := hexDigit_hexUnit (unit.toNat % 16) (by omega)
  have whole : ((unit.toNat / 4096 * 16 + unit.toNat / 256 % 16) * 16 + unit.toNat / 16 % 16) * 16 + unit.toNat % 16 = unit.toNat := by
    omega
  simp only [JsonParser.hex4, first, second, third, fourth, Option.bind_eq_bind, Option.bind_some, whole]
  simp

def Plain (unit : CodeUnit) : Prop := isHighSurrogate unit = false ∧ isLowSurrogate unit = false

theorem low_plain {unit : CodeUnit} (low : unit < 0x80) : Plain unit := by
  have bounds : UInt16.toNat 0x80 = 0x80 ∧ UInt16.toNat 0xD800 = 0xD800 ∧ UInt16.toNat 0xDC00 = 0xDC00 := by decide
  rw [UInt16.lt_iff_toNat_lt] at low
  simp only [Plain, isHighSurrogate, isLowSurrogate, Bool.and_eq_false_iff, decide_eq_false_iff_not, UInt16.le_iff_toNat_le]
  omega

theorem chars_unicodeEscape {unit : CodeUnit} (plain : Plain unit) {source text : JsString} (rest : CharsText true source text) :
    CharsText true (unicodeEscape unit ++ source) (unit :: text) :=
  .code (hex4_unit unit) (fun _ => plain) rest

theorem chars_escapeUnit (unit : CodeUnit) {source text : JsString} (rest : CharsText true source text) :
    CharsText true (escapeUnit unit ++ source) (unit :: text) := by
  unfold escapeUnit
  iterate 7
    split
    · next same =>
      subst same
      exact .simple (by decide) rest
  split
  · next control =>
    have low : (0x20 : CodeUnit) < 0x80 := by decide
    exact chars_unicodeEscape (low_plain (UInt16.lt_trans control low)) rest
  · next noQuote noBackslash _ _ _ _ _ printable => exact .unescaped printable ⟨noQuote, noBackslash⟩ rest

def quotedChars (ensureAscii : Bool) (text : JsString) : JsString :=
  text.flatMap fun unit => if ensureAscii && 0x7F ≤ unit then unicodeEscape unit else escapeUnit unit

theorem quoteText_eq (ensureAscii : Bool) (text : JsString) :
    quoteText text ensureAscii = JsonParser.quote :: (quotedChars ensureAscii text ++ [JsonParser.quote]) := rfl

theorem chars_raw (text : JsString) : CharsText true (quotedChars false text) text := by
  induction text with
  | nil => exact .done
  | cons unit rest ih => exact chars_escapeUnit unit ih

theorem chars_ascii (text : JsString) (whole : wholePairs text = true) : CharsText true (quotedChars true text) text := by
  have one : ∀ (unit : CodeUnit) (source text : JsString), Plain unit → CharsText true source text →
      CharsText true ((if true && 0x7F ≤ unit then unicodeEscape unit else escapeUnit unit) ++ source) (unit :: text) := by
    intro unit source text plain rest
    split
    · exact chars_unicodeEscape plain rest
    · exact chars_escapeUnit unit rest
  fun_induction wholePairs text with
  | case1 => exact .done
  | case2 unit =>
    have plain : Plain unit := by simpa [Plain] using whole
    exact one unit [] [] plain .done
  | case3 unit next rest high ih =>
    obtain ⟨low, pairs⟩ := Bool.and_eq_true_iff.mp whole
    -- both halves are escaped
    have ascii : ∀ half : CodeUnit, isHighSurrogate half = true ∨ isLowSurrogate half = true →
        (if true && 0x7F ≤ half then unicodeEscape half else escapeUnit half) = unicodeEscape half := by
      intro half surrogate
      have bounds : UInt16.toNat 0x7F = 0x7F ∧ UInt16.toNat 0xD800 = 0xD800 ∧ UInt16.toNat 0xDC00 = 0xDC00 := by decide
      simp only [isHighSurrogate, isLowSurrogate, Bool.and_eq_true, decide_eq_true_eq, UInt16.le_iff_toNat_le] at surrogate
      refine if_pos ?_
      simp only [Bool.true_and, decide_eq_true_eq, UInt16.le_iff_toNat_le]
      omega
    have split : quotedChars true (unit :: next :: rest) = unicodeEscape unit ++ (unicodeEscape next ++ quotedChars true rest) := by
      rw [← ascii unit (.inl high), ← ascii next (.inr low)]
      rfl
    rw [split]
    exact .pair rfl (hex4_unit unit) high (hex4_unit next) low (ih pairs)
  | case4 unit next rest high ih =>
    obtain ⟨low, pairs⟩ := Bool.and_eq_true_iff.mp whole
    exact one unit _ _ ⟨by simpa using high, by simpa using low⟩ (ih pairs)

section

variable {string : JsString → JsString} {gap : JsString} {good : JsString → Prop}

def WritesStrings (string : JsString → JsString) (good : JsString → Prop) : Prop :=
  ∀ text, good text → ∃ chars, string text = JsonParser.quote :: (chars ++ [JsonParser.quote]) ∧ CharsText true chars text

mutual

theorem dump_derived (strings : WritesStrings string good) (blank : Blanks gap) : ∀ (value : JsonValue) (depth : ℕ),
    WellFormed value → EveryString good value → nesting value ≤ depth →
    ValueText true id lastValues depth (dump string gap id value) value
  | .null, _, _, _, _ => by
    rw [dump]
    exact .null
  | .bool true, _, _, _, _ => by
    rw [dump]
    exact .yes
  | .bool false, _, _, _, _ => by
    rw [dump]
    exact .no
  | .number raw, _, formed, _, _ => by
    rw [dump]
    rw [WellFormed] at formed
    exact .number formed
  | .string text, _, _, every, _ => by
    rw [EveryString] at every
    obtain ⟨chars, same, derived⟩ := strings text every
    rw [dump, same]
    exact .string derived
  | .array [], depth, _, _, deep => by
    rw [nesting, nestingItems] at deep
    obtain ⟨depth, rfl⟩ : ∃ less, depth = less + 1 := ⟨depth - 1, by omega⟩
    simp only [dump, dumpItems, List.intercalate_nil, List.append_nil]
    exact .emptyArray Blanks.nil
  | .array (item :: items), depth, formed, every, deep => by
    rw [WellFormed] at formed
    rw [EveryString] at every
    rw [nesting] at deep
    obtain ⟨depth, rfl⟩ : ∃ less, depth = less + 1 := ⟨depth - 1, by omega⟩
    have listed := dumpItems_derived strings blank item items [] depth Blanks.nil formed every (by omega)
    rw [List.nil_append] at listed
    rw [dump]
    exact .array listed
  | .object [], depth, _, _, deep => by
    rw [nesting, nestingFields] at deep
    obtain ⟨depth, rfl⟩ : ∃ less, depth = less + 1 := ⟨depth - 1, by omega⟩
    simp only [dump, dumpFields, id, List.map_nil, List.intercalate_nil, List.append_nil]
    exact .emptyObject Blanks.nil
  | .object (field :: fields), depth, formed, every, deep => by
    rw [WellFormed] at formed
    rw [EveryString] at every
    rw [nesting] at deep
    obtain ⟨depth, rfl⟩ : ∃ less, depth = less + 1 := ⟨depth - 1, by omega⟩
    have listed := dumpFields_derived strings blank field fields [] depth Blanks.nil formed.2 every (by omega)
    rw [List.nil_append] at listed
    have derived : ValueText true id lastValues (depth + 1) _ (.object (lastValues (field :: fields))) := .object listed
    rw [lastValues_nodup formed.1] at derived
    rw [dump]
    exact derived
termination_by value => sizeOf value

theorem dumpItems_derived (strings : WritesStrings string good) (blank : Blanks gap) : ∀ (item : JsonValue) (items : List JsonValue)
    (before : JsString) (depth : ℕ), Blanks before → WellFormedItems (item :: items) → EveryStringItems good (item :: items) →
    nestingItems (item :: items) ≤ depth →
    ItemsText true id lastValues depth (before ++ ([JsonParser.comma] ++ gap).intercalate (dumpItems string gap id (item :: items)))
      (item :: items)
  | item, [], before, depth, before_, formed, every, deep => by
    rw [WellFormedItems] at formed
    rw [EveryStringItems] at every
    rw [nestingItems] at deep
    have value := dump_derived strings blank item depth formed.1 every.1 (by omega)
    have last := ItemsText.last before_ value Blanks.nil
    simpa [dumpItems] using last
  | item, next :: items, before, depth, before_, formed, every, deep => by
    rw [WellFormedItems] at formed
    rw [EveryStringItems] at every
    rw [nestingItems] at deep
    have value := dump_derived strings blank item depth formed.1 every.1 (by omega)
    have rest := dumpItems_derived strings blank next items gap depth blank formed.2 every.2 (by omega)
    have more := ItemsText.more before_ value Blanks.nil rest
    simpa [dumpItems] using more
termination_by item items => sizeOf (item :: items)

theorem dumpFields_derived (strings : WritesStrings string good) (blank : Blanks gap) : ∀ (field : JsString × JsonValue)
    (fields : List (JsString × JsonValue)) (before : JsString) (depth : ℕ), Blanks before → WellFormedFields (field :: fields) →
    EveryStringFields good (field :: fields) → nestingFields (field :: fields) ≤ depth →
    MembersText true id lastValues depth (before ++ ([JsonParser.comma] ++ gap).intercalate
      ((dumpFields string gap id (field :: fields)).map fun field => string field.1 ++ [JsonParser.colon] ++ gap ++ field.2))
      (field :: fields)
  | (key, item), [], before, depth, before_, formed, every, deep => by
    rw [WellFormedFields] at formed
    rw [EveryStringFields] at every
    rw [nestingFields] at deep
    obtain ⟨chars, same, derived⟩ := strings key every.1
    have value := dump_derived strings blank item depth formed.1 every.2.1 (by omega)
    have last := MembersText.last before_ derived Blanks.nil blank value Blanks.nil
    simpa [dumpFields, same] using last
  | (key, item), next :: fields, before, depth, before_, formed, every, deep => by
    rw [WellFormedFields] at formed
    rw [EveryStringFields] at every
    rw [nestingFields] at deep
    obtain ⟨chars, same, derived⟩ := strings key every.1
    have value := dump_derived strings blank item depth formed.1 every.2.1 (by omega)
    have rest := dumpFields_derived strings blank next fields gap depth blank formed.2 every.2.2 (by omega)
    have more := MembersText.more before_ derived Blanks.nil blank value Blanks.nil rest
    simpa [dumpFields, same] using more
termination_by field fields => sizeOf (field :: fields)

end

end

theorem wellFormedItems_iff (items : List JsonValue) : WellFormedItems items ↔ ∀ item ∈ items, WellFormed item := by
  induction items with
  | nil => simp [WellFormedItems]
  | cons item items ih => simp [WellFormedItems, ih]

theorem wellFormedFields_iff (fields : List (JsString × JsonValue)) : WellFormedFields fields ↔ ∀ field ∈ fields, WellFormed field.2 := by
  induction fields with
  | nil => simp [WellFormedFields]
  | cons field fields ih => simp [WellFormedFields, ih]

theorem nestingItems_le {items : List JsonValue} {depth : ℕ} : nestingItems items ≤ depth ↔ ∀ item ∈ items, nesting item ≤ depth := by
  induction items with
  | nil => simp [nestingItems]
  | cons item items ih => simp [nestingItems, ih]

theorem nestingFields_le {fields : List (JsString × JsonValue)} {depth : ℕ} :
    nestingFields fields ≤ depth ↔ ∀ field ∈ fields, nesting field.2 ≤ depth := by
  induction fields with
  | nil => simp [nestingFields]
  | cons field fields ih => simp [nestingFields, ih]

def Fits (depth : ℕ) (value : JsonValue) : Prop := WellFormed value ∧ nesting value ≤ depth

theorem fits_array {depth : ℕ} {items : List JsonValue} (every : ∀ item ∈ items, Fits depth item) :
    Fits (depth + 1) (.array items) := by
  constructor
  · rw [WellFormed, wellFormedItems_iff]
    exact fun item inside => (every item inside).1
  · rw [nesting, Nat.add_le_add_iff_right, nestingItems_le]
    exact fun item inside => (every item inside).2

theorem fits_object {depth : ℕ} {fields : List (JsString × JsonValue)} (every : ∀ field ∈ fields, Fits depth field.2) :
    Fits (depth + 1) (.object (lastValues fields)) := by
  constructor
  · rw [WellFormed, wellFormedFields_iff]
    exact ⟨lastValues_keys fields, fun field inside => (every field (lastValues_mem inside)).1⟩
  · rw [nesting, Nat.add_le_add_iff_right, nestingFields_le]
    exact fun field inside => (every field (lastValues_mem inside)).2

theorem fits_leaf (depth : ℕ) : Fits depth .null ∧ (∀ flag, Fits depth (.bool flag)) ∧ ∀ text, Fits depth (.string text) := by
  simp [Fits, WellFormed, nesting]

theorem value_fits {depth : ℕ} {source : JsString} {value : JsonValue} (derived : ValueText true id lastValues depth source value) :
    Fits depth value :=
  @ValueText.rec JsString true id lastValues (fun depth _ value _ => Fits depth value)
    (fun depth _ items _ => ∀ item ∈ items, Fits depth item) (fun depth _ fields _ => ∀ field ∈ fields, Fits depth field.2)
    (fits_leaf _).1 ((fits_leaf _).2.1 true) ((fits_leaf _).2.1 false)
    (fun number => ⟨by rwa [WellFormed], by simp [nesting]⟩) (fun _ => (fits_leaf _).2.2 _)
    (fun _ => fits_array (by simp)) (fun _ every => fits_array every)
    (fun _ => fits_object (by simp)) (fun _ every => fits_object every)
    (fun _ _ _ one => by simpa using one) (fun _ _ _ _ one rest => by simpa using ⟨one, rest⟩)
    (fun _ _ _ _ _ _ one => by simpa using one)
    (fun _ _ _ _ _ _ _ one rest field inside => (List.mem_cons.mp inside).elim (fun same => same ▸ one) (rest field))
    depth source value derived

theorem raw_strings : WritesStrings (fun text => quoteText text false) fun _ => True :=
  fun text _ => ⟨quotedChars false text, quoteText_eq false text, chars_raw text⟩

theorem ascii_strings : WritesStrings (fun text => quoteText text true) fun text => wholePairs text = true :=
  fun text whole => ⟨quotedChars true text, quoteText_eq true text, chars_ascii text whole⟩

mutual

theorem everyString_true : ∀ value : JsonValue, EveryString (fun _ => True) value
  | .null => by simp [EveryString]
  | .bool _ => by simp [EveryString]
  | .number _ => by simp [EveryString]
  | .string _ => by simp [EveryString]
  | .array items => by
    rw [EveryString]
    exact everyStringItems_true items
  | .object fields => by
    rw [EveryString]
    exact everyStringFields_true fields

theorem everyStringItems_true : ∀ items : List JsonValue, EveryStringItems (fun _ => True) items
  | [] => by simp [EveryStringItems]
  | item :: items => by
    rw [EveryStringItems]
    exact ⟨everyString_true item, everyStringItems_true items⟩

theorem everyStringFields_true : ∀ fields : List (JsString × JsonValue), EveryStringFields (fun _ => True) fields
  | [] => by simp [EveryStringFields]
  | (_, value) :: fields => by
    rw [EveryStringFields]
    exact ⟨trivial, everyString_true value, everyStringFields_true fields⟩

end

theorem parseJson_derived {value : JsonValue} {text : JsString} (derived : ValueText true id lastValues 127 text value) :
    parseJson text = some value := by
  have whole := JsonText.text Blanks.nil derived Blanks.nil
  rw [List.nil_append, List.append_nil] at whole
  exact ((parseJson_grammar text).1 value).mpr whole

theorem parseJson_toJson {value : JsonValue} (fits : Fits 127 value) : parseJson (toJson value) = some value :=
  parseJson_derived (dump_derived raw_strings Blanks.nil value 127 fits.1 (everyString_true value) fits.2)

/-- Written values are read again, and read values are written so that they are read again. -/
theorem json_round_trip : (∀ value, WellFormed value → nesting value ≤ 127 → parseJson (toJson value) = some value) ∧
    (∀ value, WellFormed value → nesting value ≤ 127 → EveryString (fun text => wholePairs text = true) value →
      parseJson (pythonJsonDumps value false) = some value) ∧
    ∀ text value, parseJson text = some value → parseJson (toJson value) = some value := by
  refine ⟨fun value formed deep => parseJson_toJson ⟨formed, deep⟩, fun value formed deep whole => ?_, fun text value parsed => ?_⟩
  · have blank : Blanks [0x20] := by simp [Blanks, JsonParser.isBlank]
    exact parseJson_derived (dump_derived ascii_strings blank value 127 formed whole deep)
  · obtain ⟨_, derived, _⟩ := ((parseJson_grammar text).1 value).mp parsed
    exact parseJson_toJson (value_fits derived)

/-- A number's text, a line feed, a pair and an object survive. -/
def sample : JsonValue := .array [.number (js "1.50"), .object [(js "k", .string (js "\n😀"))]]

theorem json_round_trip_sample : parseJson (toJson sample) = some sample ∧ parseJson (pythonJsonDumps sample false) = some sample := by
  have formed : WellFormed sample := by
    have digits : ∀ unit ∈ js "50", isDigitUnit unit = true := List.all_eq_true.mp (by decide)
    have number : NumberText ([] ++ ([0x31] ++ ((0x2E :: js "50") ++ []))) :=
      .number (.inl rfl) (.digits (by decide +kernel) (by decide +kernel) (by simp)) (.present ⟨by decide +kernel, digits⟩) .absent
    have same : [] ++ ([0x31] ++ ((0x2E :: js "50") ++ [])) = js "1.50" := by decide +kernel
    rw [same] at number
    simp [sample, WellFormed, WellFormedItems, WellFormedFields, number]
  have deep : nesting sample ≤ 127 := by decide +kernel
  have whole : EveryString (fun text => wholePairs text = true) sample := by
    have pairs : wholePairs (js "k") = true ∧ wholePairs (js "\n😀") = true := by decide +kernel
    simp [sample, EveryString, EveryStringItems, EveryStringFields, pairs]
  exact ⟨json_round_trip.1 sample formed deep, json_round_trip.2.1 sample formed deep whole⟩

end SpaceApp.Gateway.Compression
