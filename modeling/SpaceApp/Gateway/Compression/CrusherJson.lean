import SpaceApp.Foundation.JsonGrammar

/-! The JSON of the crusher (`smart-crusher/json.ts`): its parser takes exactly the texts of RFC 8259 whose containers
nest at most 127 deep and whose escaped surrogates come in pairs, and its writers write such texts.

A number is its source text, an object its fields in insertion order, one for each key.
-/

set_option autoImplicit false

namespace SpaceApp.Gateway.Compression

open SpaceApp.Foundation JsonGrammar

abbrev JsonValue := Json JsString

/-- `Parser`: recursion limit 128, paired surrogates, the source text of numbers, `Map.set` for fields. -/
def crusherRules : JsonRules JsString where
  depth := some 128
  paired := true
  literal := id
  set := setEntry

def parseJson (text : JsString) : Option JsonValue := JsonParser.parse crusherRules text

/-- The units of `ESCAPE`, and with `ensureAscii` those of `ESCAPE_ASCII`, become escapes. -/
def quoteText (text : JsString) (ensureAscii : Bool) : JsString :=
  [JsonParser.quote] ++ text.flatMap (fun unit => if ensureAscii && 0x7F ≤ unit then unicodeEscape unit else escapeUnit unit) ++
    [JsonParser.quote]

/-- The order of code points: units, but a surrogate comes behind every other unit. -/
def compareCodePoints : JsString → JsString → Int
  | [], [] => 0
  | [], _ :: rest => -(rest.length + 1 : Int)
  | _ :: rest, [] => rest.length + 1
  | x :: a, y :: b =>
      if x = y then compareCodePoints a b
      else
        let surrogate := fun unit : CodeUnit => isHighSurrogate unit || isLowSurrogate unit
        if surrogate x = surrogate y then (x.toNat : Int) - y.toNat
        else if surrogate x then 1
        else -1

section

variable (string : JsString → JsString) (gap : JsString) (order : List (JsString × JsString) → List (JsString × JsString))

mutual

def dump : JsonValue → JsString
  | .null => js "null"
  | .bool true => js "true"
  | .bool false => js "false"
  | .number raw => raw
  | .string text => string text
  | .array items => [JsonParser.openBracket] ++ ([JsonParser.comma] ++ gap).intercalate (dumpItems items) ++ [JsonParser.closeBracket]
  | .object fields =>
      [JsonParser.openBrace] ++ ([JsonParser.comma] ++ gap).intercalate ((order (dumpFields fields)).map fun field =>
        string field.1 ++ [JsonParser.colon] ++ gap ++ field.2) ++ [JsonParser.closeBrace]

def dumpItems : List JsonValue → List JsString
  | [] => []
  | item :: rest => dump item :: dumpItems rest

def dumpFields : List (JsString × JsonValue) → List (JsString × JsString)
  | [] => []
  | (key, value) :: rest => (key, dump value) :: dumpFields rest

end

end

/-- Compact, in insertion order. -/
def toJson (value : JsonValue) : JsString := dump (fun text => quoteText text false) [] id value

/-- `json.dumps(value[, sort_keys=True])`. -/
def pythonJsonDumps (value : JsonValue) (sortKeys : Bool) : JsString :=
  dump (fun text => quoteText text true) [0x20]
    (fun fields => if sortKeys then fields.mergeSort fun a b => compareCodePoints a.1 b.1 ≤ 0 else fields) value

/-- The last value of every key, in the place of the key's first field. -/
def lastValues : List (JsString × JsonValue) → JsonObject JsString
  | [] => []
  | (key, value) :: rest =>
      (key, (rest.reverse.lookup key).getD value) :: (lastValues rest).filter fun field => field.1 ≠ key

theorem lastValues_keys (fields : List (JsString × JsonValue)) : ((lastValues fields).map Prod.fst).Nodup := by
  induction fields with
  | nil => simp [lastValues]
  | cons field rest ih =>
    rw [lastValues, List.map_cons, List.nodup_cons]
    constructor
    · simp
    · exact ih.sublist (List.filter_sublist.map _)

theorem lastValues_mem {fields : List (JsString × JsonValue)} {field : JsString × JsonValue} (inside : field ∈ lastValues fields) :
    field ∈ fields := by
  induction fields with
  | nil => simp [lastValues] at inside
  | cons first rest ih =>
    rw [lastValues] at inside
    rcases List.mem_cons.mp inside with rfl | later
    · cases found : rest.reverse.lookup first.1 with
      | none => simp
      | some value =>
        obtain ⟨before, after, split, -⟩ := List.lookup_eq_some_iff.mp found
        have inside : (first.1, value) ∈ rest.reverse := by simp [split]
        exact List.mem_cons_of_mem _ (List.mem_reverse.mp inside)
    · exact List.mem_cons_of_mem _ (ih (List.mem_filter.mp later).1)

theorem lastValues_nodup {fields : List (JsString × JsonValue)} (once : (fields.map Prod.fst).Nodup) : lastValues fields = fields := by
  induction fields with
  | nil => rfl
  | cons field rest ih =>
    rw [List.map_cons, List.nodup_cons] at once
    have absent : ∀ other ∈ rest, other.1 ≠ field.1 := fun other inside same =>
      once.1 (same ▸ List.mem_map_of_mem inside)
    have none_ : rest.reverse.lookup field.1 = none := by
      rw [List.lookup_eq_none_iff]
      intro other inside
      simpa using Ne.symm (absent other (List.mem_reverse.mp inside))
    rw [lastValues, ih once.2, none_, List.filter_eq_self.mpr (fun other inside => by simpa using absent other inside)]
    rfl

theorem foldl_setEntry (earlier : JsonObject JsString) (fields : List (JsString × JsonValue)) :
    fields.foldl (fun object field => setEntry object field.1 field.2) earlier =
      earlier.map (fun field => (field.1, (fields.reverse.lookup field.1).getD field.2)) ++
        (lastValues fields).filter fun field => field.1 ∉ earlier.map Prod.fst := by
  induction fields generalizing earlier with
  | nil => simp [lastValues]
  | cons field rest ih =>
    obtain ⟨key, value⟩ := field
    have last : ∀ (other : JsString) (old : JsonValue), (((key, value) :: rest).reverse.lookup other).getD old =
        (rest.reverse.lookup other).getD (if other = key then value else old) := by
      intro other old
      rw [List.reverse_cons, List.lookup_append]
      by_cases same : other = key
      · subst same
        cases rest.reverse.lookup other <;> simp
      · have apart : (other == key) = false := beq_eq_false_iff_ne.mpr same
        cases rest.reverse.lookup other <;> simp [List.lookup_cons, apart, same]
    rw [List.foldl_cons, ih]
    by_cases known : key ∈ earlier.map Prod.fst
    · have any_ : (earlier.any fun field => field.1 = key) = true := by
        obtain ⟨field, inside, same⟩ := List.mem_map.mp known
        exact List.any_eq_true.mpr ⟨field, inside, by simpa using same⟩
      have keys : (earlier.map fun field => if field.1 = key then (key, value) else field).map Prod.fst = earlier.map Prod.fst := by
        rw [List.map_map]
        refine List.map_congr_left fun field _ => ?_
        by_cases same : field.1 = key
        · simp [same]
        · simp [same]
      simp only [setEntry, any_, if_true, keys, lastValues, List.filter_cons, known, not_true_eq_false, decide_false,
        Bool.false_eq_true, if_false, List.filter_filter]
      congr 1
      · rw [List.map_map]
        refine List.map_congr_left fun field _ => ?_
        rw [last]
        by_cases same : field.1 = key
        · simp [same]
        · simp [same]
      · refine List.filter_congr fun field _ => ?_
        by_cases same : field.1 = key
        · simp [same, known]
        · simp [same]
    · have none_ : (earlier.any fun field => field.1 = key) = false := by
        rw [List.any_eq_false]
        intro field inside
        simpa using fun same => known (List.mem_map.mpr ⟨field, inside, same⟩)
      simp only [setEntry, none_, Bool.false_eq_true, if_false, lastValues, List.filter_cons, known, not_false_eq_true, decide_true,
        if_true, List.filter_filter, List.map_append, List.map_cons, List.map_nil, List.append_assoc, List.singleton_append]
      congr 1
      · refine List.map_congr_left fun field inside => ?_
        have other : field.1 ≠ key := fun same => known (List.mem_map.mpr ⟨field, inside, same⟩)
        rw [last, if_neg other]
      · congr 1
        refine List.filter_congr fun field _ => ?_
        rw [← Bool.decide_and, decide_eq_decide]
        constructor
        · intro absent
          exact ⟨fun old => absent (List.mem_append_left _ old), fun own => absent (List.mem_append_right _ (List.mem_singleton.mpr own))⟩
        · rintro ⟨other, new⟩ inside
          rcases List.mem_append.mp inside with old | own
          · exact other old
          · exact new (List.mem_singleton.mp own)

theorem crusher_collects : Collects crusherRules lastValues := by
  intro fields
  have set_ := foldl_setEntry [] fields
  simpa [crusherRules] using set_

theorem loosen_chars {paired : Bool} {source text : JsString} (chars : CharsText paired source text) : CharsText false source text := by
  induction chars with
  | done => exact .done
  | unescaped printable plain _ ih => exact .unescaped printable plain ih
  | simple named _ ih => exact .simple named ih
  | code hex _ _ ih => exact .code hex (by simp) ih
  | pair _ hexHigh _ hexLow _ _ ih => exact .code hexHigh (by simp) (.code hexLow (by simp) ih)

theorem loosen_value {paired : Bool} {depth more : ℕ} {source : JsString} {value : JsonValue}
    (derived : ValueText paired id lastValues depth source value) (deeper : depth ≤ more) :
    ValueText false id lastValues more source value :=
  @ValueText.rec JsString paired id lastValues
    (fun depth source value _ => ∀ more, depth ≤ more → ValueText false id lastValues more source value)
    (fun depth source items _ => ∀ more, depth ≤ more → ItemsText false id lastValues more source items)
    (fun depth source fields _ => ∀ more, depth ≤ more → MembersText false id lastValues more source fields)
    (fun _ _ => .null) (fun _ _ => .yes) (fun _ _ => .no) (fun number _ _ => .number number)
    (fun chars _ _ => .string (loosen_chars chars))
    (fun blank more deeper => by
      obtain ⟨more, rfl⟩ : ∃ less, more = less + 1 := ⟨more - 1, by omega⟩
      exact .emptyArray blank)
    (fun _ ih more deeper => by
      obtain ⟨more, rfl⟩ : ∃ less, more = less + 1 := ⟨more - 1, by omega⟩
      exact .array (ih more (by omega)))
    (fun blank more deeper => by
      obtain ⟨more, rfl⟩ : ∃ less, more = less + 1 := ⟨more - 1, by omega⟩
      exact .emptyObject blank)
    (fun _ ih more deeper => by
      obtain ⟨more, rfl⟩ : ∃ less, more = less + 1 := ⟨more - 1, by omega⟩
      exact .object (ih more (by omega)))
    (fun before_ _ after_ ih more deeper => .last before_ (ih more deeper) after_)
    (fun before_ _ after_ _ ih later more deeper => .more before_ (ih more deeper) after_ (later more deeper))
    (fun before_ key_ gap_ behind_ _ after_ ih more deeper =>
      .last before_ (loosen_chars key_) gap_ behind_ (ih more deeper) after_)
    (fun before_ key_ gap_ behind_ _ after_ _ ih later more deeper =>
      .more before_ (loosen_chars key_) gap_ behind_ (ih more deeper) after_ (later more deeper))
    depth source value derived more deeper

def looseRules (depth : ℕ) : JsonRules JsString := { crusherRules with
  depth := some (depth + 1)
  paired := false }

/-- The grammar gives a text one value, however deep it nests and whatever it escapes. -/
theorem jsonText_unique {depth other : ℕ} {first second : Bool} {text : JsString} {value same : JsonValue}
    (one : JsonText first id lastValues depth text value) (two : JsonText second id lastValues other text same) : value = same := by
  have loose : ∀ {paired : Bool} {deep : ℕ} {found : JsonValue}, deep ≤ max depth other → JsonText paired id lastValues deep text found →
      JsonText false id lastValues (max depth other) text found := by
    rintro paired deep found within ⟨before_, derived, after_⟩
    exact .text before_ (loosen_value derived within) after_
  have parses : ∀ found, JsonParser.parse (looseRules (max depth other)) text = some found ↔
      JsonText false id lastValues (max depth other) text found :=
    @parse_iff JsString (looseRules (max depth other)) lastValues crusher_collects _ rfl text
  have left := (parses _).mpr (loose (le_max_left _ _) one)
  have right := (parses _).mpr (loose (le_max_right _ _) two)
  exact Option.some.inj (left.symm.trans right)

/-- The parser is defined exactly on the texts of the grammar within its limits, and gives them the grammar's values. -/
theorem parseJson_grammar (text : JsString) :
    (∀ value, parseJson text = some value ↔ JsonText true id lastValues 127 text value) ∧
    ∀ value, parseJson text = some value → ∀ depth other, JsonText false id lastValues depth text other → other = value := by
  have exactly : ∀ value, parseJson text = some value ↔ JsonText true id lastValues 127 text value :=
    parse_iff crusher_collects rfl text
  exact ⟨exactly, fun value parsed depth other derived => jsonText_unique derived ((exactly value).mp parsed)⟩

end SpaceApp.Gateway.Compression
