import SpaceApp.Foundation.JsonTokens

/-! The grammar of JSON texts over code units, and the parser's answers as its derivations.

A grammar reads the fields of an object in its own way; `depth` is how deep arrays and objects may nest.
-/

set_option autoImplicit false

namespace SpaceApp.Foundation

open JsonParser

namespace JsonGrammar

section

variable {ν : Type} (paired : Bool) (literal : JsString → ν) (object : List (JsString × Json ν) → JsonObject ν)

mutual

inductive ValueText : ℕ → JsString → Json ν → Prop where
  | null {depth : ℕ} : ValueText depth (js "null") .null
  | yes {depth : ℕ} : ValueText depth (js "true") (.bool true)
  | no {depth : ℕ} : ValueText depth (js "false") (.bool false)
  | number {depth : ℕ} {raw : JsString} (number_ : NumberText raw) : ValueText depth raw (.number (literal raw))
  | string {depth : ℕ} {source text : JsString} (chars : CharsText paired source text) :
      ValueText depth (quote :: (source ++ [quote])) (.string text)
  | emptyArray {depth : ℕ} {blanks : JsString} (blank : Blanks blanks) :
      ValueText (depth + 1) (openBracket :: (blanks ++ [closeBracket])) (.array [])
  | array {depth : ℕ} {source : JsString} {items : List (Json ν)} (listed : ItemsText depth source items) :
      ValueText (depth + 1) (openBracket :: (source ++ [closeBracket])) (.array items)
  | emptyObject {depth : ℕ} {blanks : JsString} (blank : Blanks blanks) :
      ValueText (depth + 1) (openBrace :: (blanks ++ [closeBrace])) (.object (object []))
  | object {depth : ℕ} {source : JsString} {fields : List (JsString × Json ν)} (listed : MembersText depth source fields) :
      ValueText (depth + 1) (openBrace :: (source ++ [closeBrace])) (.object (object fields))

/-- `value *( value-separator value )`. -/
inductive ItemsText : ℕ → JsString → List (Json ν) → Prop where
  | last {depth : ℕ} {before source after : JsString} {item : Json ν} (before_ : Blanks before)
      (value : ValueText depth source item) (after_ : Blanks after) : ItemsText depth (before ++ (source ++ after)) [item]
  | more {depth : ℕ} {before source after rest : JsString} {item : Json ν} {items : List (Json ν)} (before_ : Blanks before)
      (value : ValueText depth source item) (after_ : Blanks after) (rest_ : ItemsText depth rest items) :
      ItemsText depth (before ++ (source ++ (after ++ comma :: rest))) (item :: items)

/-- `member *( value-separator member )`, `member = string name-separator value`. -/
inductive MembersText : ℕ → JsString → List (JsString × Json ν) → Prop where
  | last {depth : ℕ} {before chars key gap behind source after : JsString} {item : Json ν} (before_ : Blanks before)
      (key_ : CharsText paired chars key) (gap_ : Blanks gap) (behind_ : Blanks behind) (value : ValueText depth source item)
      (after_ : Blanks after) :
      MembersText depth (before ++ (quote :: (chars ++ quote :: (gap ++ colon :: (behind ++ (source ++ after)))))) [(key, item)]
  | more {depth : ℕ} {before chars key gap behind source after rest : JsString} {item : Json ν}
      {fields : List (JsString × Json ν)} (before_ : Blanks before) (key_ : CharsText paired chars key) (gap_ : Blanks gap)
      (behind_ : Blanks behind) (value : ValueText depth source item) (after_ : Blanks after)
      (rest_ : MembersText depth rest fields) :
      MembersText depth (before ++ (quote :: (chars ++ quote :: (gap ++ colon :: (behind ++ (source ++ (after ++ comma :: rest)))))))
        ((key, item) :: fields)

end

/-- `JSON-text = ws value ws`. -/
inductive JsonText (depth : ℕ) : JsString → Json ν → Prop where
  | text {before source after : JsString} {value : Json ν} (before_ : Blanks before)
      (value_ : ValueText paired literal object depth source value) (after_ : Blanks after) :
      JsonText depth (before ++ (source ++ after)) value

end

/-! ## Values -/

section

variable {ν : Type} {rules : JsonRules ν} {object : List (JsString × Json ν) → JsonObject ν}

/-- The fields of an object, set one after the other. -/
def Collects (rules : JsonRules ν) (object : List (JsString × Json ν) → JsonObject ν) : Prop :=
  ∀ fields, fields.foldl (fun object field => rules.set object field.1 field.2) [] = object fields

theorem ItemsText.blanks {paired : Bool} {literal : JsString → ν} {depth : ℕ} {blanks source : JsString} {items : List (Json ν)}
    (blank : Blanks blanks) (listed : ItemsText paired literal object depth source items) :
    ItemsText paired literal object depth (blanks ++ source) items := by
  cases listed with
  | last before_ value after_ =>
    rw [← List.append_assoc]
    exact .last (blank.append before_) value after_
  | more before_ value after_ rest_ =>
    rw [← List.append_assoc]
    exact .more (blank.append before_) value after_ rest_

theorem MembersText.blanks {paired : Bool} {literal : JsString → ν} {depth : ℕ} {blanks source : JsString}
    {fields : List (JsString × Json ν)} (blank : Blanks blanks) (listed : MembersText paired literal object depth source fields) :
    MembersText paired literal object depth (blanks ++ source) fields := by
  cases listed with
  | last before_ key_ gap_ behind_ value after_ =>
    rw [← List.append_assoc]
    exact .last (blank.append before_) key_ gap_ behind_ value after_
  | more before_ key_ gap_ behind_ value after_ rest_ =>
    rw [← List.append_assoc]
    exact .more (blank.append before_) key_ gap_ behind_ value after_ rest_

theorem enter_succ (depth : ℕ) : enter (some (depth + 1)) = if depth = 0 then none else some (some depth) := by
  simp [enter]

theorem take_consumed (source rest : JsString) : (source ++ rest).take ((source ++ rest).length - rest.length) = source := by
  simp

/-- The parser at `depth`, with `fuel` steps, nests no deeper than `level`. -/
def Allows (depth : Option ℕ) (fuel level : ℕ) : Prop := depth.elim (fuel ≤ level) fun depth => level = depth - 1

theorem Allows.later {depth : Option ℕ} {fuel level : ℕ} (allowed : Allows depth (fuel + 1) level) : Allows depth fuel level := by
  cases depth with
  | none => exact (Nat.le_succ fuel).trans allowed
  | some depth => exact allowed

theorem Allows.enters {depth inner : Option ℕ} {fuel level : ℕ} (allowed : Allows depth (fuel + 1) level)
    (entered : enter depth = some inner) : ∃ lower, level = lower + 1 ∧ Allows inner fuel lower := by
  cases depth with
  | none =>
    cases entered
    obtain ⟨lower, rfl⟩ := Nat.exists_eq_add_of_le' ((Nat.le_add_left 1 fuel).trans allowed)
    exact ⟨lower, rfl, Nat.le_of_succ_le_succ allowed⟩
  | some depth =>
    obtain rfl : level = depth - 1 := allowed
    simp only [enter] at entered
    split at entered
    · cases entered
    · next positive =>
      cases entered
      exact ⟨depth - 1 - 1, by omega, rfl⟩

/-- What the parser takes is derived, one case for each kind of text. -/
theorem sound (collects : Collects rules object) (fuel : ℕ) :
    (∀ depth level text found rest, Allows depth fuel level → value rules fuel depth text = some (found, rest) →
      ∃ source, text = source ++ rest ∧ ValueText rules.paired rules.literal object level source found) ∧
    (∀ depth level fields text found rest, Allows depth fuel level → members rules fuel depth fields text = some (found, rest) →
      ∃ source more, text = source ++ closeBrace :: rest ∧
        found = .object (more.foldl (fun object field => rules.set object field.1 field.2) fields) ∧
        MembersText rules.paired rules.literal object level source more) ∧
    (∀ depth level items text found rest, Allows depth fuel level → elements rules fuel depth items text = some (found, rest) →
      ∃ source more, text = source ++ closeBracket :: rest ∧ found = .array (items ++ more) ∧
        ItemsText rules.paired rules.literal object level source more) := by
  induction fuel with
  | zero =>
    refine ⟨?_, ?_, ?_⟩
    · intro depth level text found rest allowed same
      simp [value] at same
    · intro depth level fields text found rest allowed same
      simp [members] at same
    · intro depth level items text found rest allowed same
      simp [elements] at same
  | succ fuel ih =>
    obtain ⟨valueIh, membersIh, elementsIh⟩ := ih
    refine ⟨?_, ?_, ?_⟩
    · intro depth level text found rest allowed same
      cases text with
      | nil => simp [value] at same
      | cons unit text =>
        obtain ⟨blanks, skipped, blank⟩ := skipWhitespace_split text
        simp only [value] at same
        split at same
        · next brace =>
          subst brace
          split at same
          · cases same
          next _ inner entered =>
          obtain ⟨level, rfl, inside⟩ := allowed.enters entered
          split at same
          · cases same
          next _ next behind found_ =>
          rw [found_] at skipped
          split at same
          · next closes =>
            cases same
            have none_ : ValueText rules.paired rules.literal object (level + 1) (openBrace :: (blanks ++ [closeBrace]))
                (.object (object [])) := .emptyObject blank
            rw [← collects []] at none_
            exact ⟨openBrace :: (blanks ++ [closeBrace]), by simp [skipped, closes], none_⟩
          · obtain ⟨source, more, split, rfl, listed⟩ := membersIh _ _ _ _ _ _ inside same
            refine ⟨openBrace :: ((blanks ++ source) ++ [closeBrace]), by simp [skipped, split], ?_⟩
            rw [collects]
            exact .object (listed.blanks blank)
        split at same
        · next bracket =>
          subst bracket
          split at same
          · cases same
          next _ inner entered =>
          obtain ⟨level, rfl, inside⟩ := allowed.enters entered
          split at same
          · cases same
          next _ next behind found_ =>
          rw [found_] at skipped
          split at same
          · next closes =>
            cases same
            exact ⟨openBracket :: (blanks ++ [closeBracket]), by simp [skipped, closes], .emptyArray blank⟩
          · obtain ⟨source, more, split, rfl, listed⟩ := elementsIh _ _ _ _ _ _ inside same
            exact ⟨openBracket :: ((blanks ++ source) ++ [closeBracket]), by simp [skipped, split], .array (listed.blanks blank)⟩
        split at same
        · next quoted =>
          subst quoted
          obtain ⟨⟨inner, behind⟩, parsed, equal⟩ := Option.map_eq_some_iff.mp same
          cases equal
          obtain ⟨chars, rfl, derived⟩ := string_sound parsed
          exact ⟨quote :: (chars ++ [quote]), by simp, .string derived⟩
        split at same
        · obtain ⟨behind, parsed, equal⟩ := Option.map_eq_some_iff.mp same
          cases equal
          obtain ⟨source, split, number⟩ := numberRest_sound parsed
          rw [split, take_consumed]
          exact ⟨source, rfl, .number number⟩
        · obtain ⟨one, parsed, equal⟩ := Option.map_eq_some_iff.mp same
          cases equal
          have starts : one.1.isPrefixOf (unit :: text) = true := by simpa using List.find?_some parsed
          obtain ⟨more, split⟩ := List.isPrefixOf_iff_prefix.mp starts
          have inside := List.mem_of_find?_eq_some parsed
          refine ⟨one.1, by rw [← split]; simp, ?_⟩
          simp only [literals, List.mem_cons, List.not_mem_nil, or_false] at inside
          rcases inside with rfl | rfl | rfl
          · exact .null
          · exact .yes
          · exact .no
    · intro depth level fields text found rest allowed same
      cases text with
      | nil => simp [members] at same
      | cons unit text =>
        simp only [members] at same
        split at same
        · cases same
        next quoted =>
        obtain rfl : unit = quote := not_not.mp quoted
        split at same
        · cases same
        next key behind parsed =>
        obtain ⟨chars, rfl, key_⟩ := string_sound parsed
        obtain ⟨gap, gapSkipped, gap_⟩ := skipWhitespace_split behind
        split at same
        · cases same
        next sign more found_ =>
        rw [found_] at gapSkipped
        split at same
        · cases same
        next signed =>
        obtain rfl : sign = colon := not_not.mp signed
        obtain ⟨behindColon, colonSkipped, behind_⟩ := skipWhitespace_split more
        split at same
        · cases same
        next item behind itemParsed =>
        obtain ⟨source, itemSplit, itemText⟩ := valueIh _ _ _ _ _ allowed.later itemParsed
        obtain ⟨after, afterSkipped, after_⟩ := skipWhitespace_split behind
        split at same
        · cases same
        next sign behind found_ =>
        rw [found_] at afterSkipped
        split at same
        · next closes =>
          cases same
          refine ⟨quote :: (chars ++ quote :: (gap ++ colon :: (behindColon ++ (source ++ after)))), [(key, item)], ?_, rfl,
            .last .nil key_ gap_ behind_ itemText after_⟩
          rw [gapSkipped, colonSkipped, itemSplit, afterSkipped, closes]
          simp
        split at same
        · next comma_ =>
          obtain ⟨blanks, skipped, blank⟩ := skipWhitespace_split behind
          obtain ⟨rest_, more_, split, rfl, listed⟩ := membersIh _ _ _ _ _ _ allowed.later same
          refine ⟨quote :: (chars ++ quote :: (gap ++ colon :: (behindColon ++ (source ++ (after ++ comma :: (blanks ++ rest_)))))),
            (key, item) :: more_, ?_, rfl, .more .nil key_ gap_ behind_ itemText after_ (listed.blanks blank)⟩
          rw [gapSkipped, colonSkipped, itemSplit, afterSkipped, comma_, skipped, split]
          simp
        · cases same
    · intro depth level items text found rest allowed same
      simp only [elements] at same
      split at same
      · cases same
      next item behind itemParsed =>
      obtain ⟨source, itemSplit, itemText⟩ := valueIh _ _ _ _ _ allowed.later itemParsed
      obtain ⟨after, afterSkipped, after_⟩ := skipWhitespace_split behind
      split at same
      · cases same
      next sign behind found_ =>
      rw [found_] at afterSkipped
      split at same
      · next closes =>
        cases same
        refine ⟨source ++ after, [item], ?_, rfl, .last .nil itemText after_⟩
        rw [itemSplit, afterSkipped, closes]
        simp
      split at same
      · next comma_ =>
        obtain ⟨blanks, skipped, blank⟩ := skipWhitespace_split behind
        obtain ⟨rest_, more_, split, rfl, listed⟩ := elementsIh _ _ _ _ _ _ allowed.later same
        refine ⟨source ++ (after ++ comma :: (blanks ++ rest_)), item :: more_, ?_, by simp,
          .more .nil itemText after_ (listed.blanks blank)⟩
        rw [itemSplit, afterSkipped, comma_, skipped, split]
        simp
      · cases same

/-! ## Every derivation is taken -/

theorem literals_find (literal : JsString × Json ν) (inside : literal ∈ literals ν) (rest : JsString) :
    ∃ unit more, literal.1 ++ rest = unit :: more ∧ unit ≠ openBrace ∧ unit ≠ openBracket ∧ unit ≠ quote ∧
      ¬ (unit = minus ∨ isDigitUnit unit = true) ∧
      (literals ν).find? (fun one => one.1.isPrefixOf (literal.1 ++ rest)) = some literal := by
  have apart : (js "null").isPrefixOf (js "true" ++ rest) = false ∧ (js "null").isPrefixOf (js "false" ++ rest) = false ∧
      (js "true").isPrefixOf (js "false" ++ rest) = false := ⟨rfl, rfl, rfl⟩
  simp only [literals, List.mem_cons, List.not_mem_nil, or_false] at inside
  rcases inside with rfl | rfl | rfl
  · exact ⟨0x6E, js "ull" ++ rest, rfl, by decide, by decide, by decide, by decide, by simp [literals]⟩
  · exact ⟨0x74, js "rue" ++ rest, rfl, by decide, by decide, by decide, by decide, by simp [literals, apart.1]⟩
  · exact ⟨0x66, js "alse" ++ rest, rfl, by decide, by decide, by decide, by decide, by simp [literals, apart.2.1, apart.2.2]⟩

theorem value_literal {literal : JsString × Json ν} (inside : literal ∈ literals ν) (fuel : ℕ) (depth : Option ℕ) (rest : JsString) :
    value rules (fuel + 1) depth (literal.1 ++ rest) = some (literal.2, rest) := by
  obtain ⟨unit, more, split, brace, bracket, quoted, number, found⟩ := literals_find literal inside rest
  rw [split] at found ⊢
  rw [value, if_neg brace, if_neg bracket, if_neg quoted, if_neg number, found, Option.map_some, ← split, List.drop_left]

section

variable {paired : Bool} {literal : JsString → ν} {depth : ℕ} {found : Json ν}

theorem ValueText.head {source : JsString} (derived : ValueText paired literal object depth source found) :
    ∃ unit rest, source = unit :: rest ∧ isBlank unit = false ∧ unit ≠ closeBracket := by
  cases derived with
  | null => exact ⟨0x6E, js "ull", rfl, by decide, by decide⟩
  | yes => exact ⟨0x74, js "rue", rfl, by decide, by decide⟩
  | no => exact ⟨0x66, js "alse", rfl, by decide, by decide⟩
  | number number_ =>
    obtain ⟨unit, rest, same, begins⟩ := number_.head
    refine ⟨unit, rest, same, ?_, ?_⟩
    · rcases begins with rfl | digit
      · decide
      · simp only [isDigitUnit, isBlank, Bool.and_eq_true, decide_eq_true_eq, UInt16.le_iff_toNat_le, Bool.or_eq_false_iff,
          beq_eq_false_iff_ne] at digit ⊢
        refine ⟨⟨⟨?_, ?_⟩, ?_⟩, ?_⟩ <;>
        · rintro rfl
          exact absurd digit.1 (by decide)
    · rintro rfl
      rcases begins with other | digit
      · exact absurd other (by decide)
      · exact absurd digit (by decide)
  | string => exact ⟨quote, _, rfl, by decide, by decide⟩
  | emptyArray => exact ⟨openBracket, _, rfl, by decide, by decide⟩
  | array => exact ⟨openBracket, _, rfl, by decide, by decide⟩
  | emptyObject => exact ⟨openBrace, _, rfl, by decide, by decide⟩
  | object => exact ⟨openBrace, _, rfl, by decide, by decide⟩

theorem skip_value {before source : JsString} (blank : Blanks before)
    (derived : ValueText paired literal object depth source found) (rest : JsString) :
    skipWhitespace (before ++ (source ++ rest)) = source ++ rest := by
  obtain ⟨unit, more, rfl, visible, -⟩ := derived.head
  rw [skipWhitespace_blanks blank]
  exact skipWhitespace_stop visible _

end

theorem skip_sign {after : JsString} (blank : Blanks after) {unit : CodeUnit} (visible : isBlank unit = false) (rest : JsString) :
    skipWhitespace (after ++ unit :: rest) = unit :: rest := by
  rw [skipWhitespace_blanks blank, skipWhitespace_stop visible]

section

variable {paired : Bool} {literal : JsString → ν} {depth : ℕ} {source : JsString}

theorem ItemsText.head {items : List (Json ν)} (listed : ItemsText paired literal object depth source items)
    (rest : JsString) : ∃ unit more, skipWhitespace (source ++ rest) = unit :: more ∧ unit ≠ closeBracket := by
  cases listed with
  | last before_ value after_ =>
    obtain ⟨unit, more, rfl, -, other⟩ := value.head
    rw [List.append_assoc, List.append_assoc, skip_value before_ value]
    exact ⟨unit, _, rfl, other⟩
  | more before_ value after_ rest_ =>
    obtain ⟨unit, more, rfl, -, other⟩ := value.head
    rw [List.append_assoc, List.append_assoc, skip_value before_ value]
    exact ⟨unit, _, rfl, other⟩

theorem MembersText.head {fields : List (JsString × Json ν)}
    (listed : MembersText paired literal object depth source fields) (rest : JsString) :
    ∃ more, skipWhitespace (source ++ rest) = quote :: more := by
  have visible : isBlank quote = false := by decide
  cases listed with
  | last before_ =>
    rw [List.append_assoc, List.cons_append, skip_sign before_ visible]
    exact ⟨_, rfl⟩
  | more before_ =>
    rw [List.append_assoc, List.cons_append, skip_sign before_ visible]
    exact ⟨_, rfl⟩

end

def Eventually (holds : ℕ → Prop) : Prop := ∃ least, ∀ fuel, least ≤ fuel → holds fuel

theorem Eventually.succ {holds next : ℕ → Prop} (eventually : Eventually holds) (step : ∀ fuel, holds fuel → next (fuel + 1)) :
    Eventually next := by
  obtain ⟨least, every⟩ := eventually
  refine ⟨least + 1, fun fuel enough => ?_⟩
  obtain ⟨fuel, rfl⟩ : ∃ less, fuel = less + 1 := ⟨fuel - 1, by omega⟩
  exact step fuel (every fuel (by omega))

theorem Eventually.and {left right : ℕ → Prop} (first : Eventually left) (second : Eventually right) :
    Eventually fun fuel => left fuel ∧ right fuel := by
  obtain ⟨one, every⟩ := first
  obtain ⟨other, each⟩ := second
  exact ⟨max one other, fun fuel enough => ⟨every fuel (by omega), each fuel (by omega)⟩⟩

theorem Eventually.always {holds : ℕ → Prop} (every : ∀ fuel, holds (fuel + 1)) : Eventually holds :=
  ⟨1, fun fuel enough => by
    obtain ⟨fuel, rfl⟩ : ∃ less, fuel = less + 1 := ⟨fuel - 1, by omega⟩
    exact every fuel⟩

def ValueTaken (rules : JsonRules ν) (depth : ℕ) (source : JsString) (found : Json ν) : Prop :=
  ∀ rest, Ends rest → Eventually fun fuel => value rules fuel (some (depth + 1)) (source ++ rest) = some (found, rest)

def ItemsTaken (rules : JsonRules ν) (depth : ℕ) (source : JsString) (items : List (Json ν)) : Prop :=
  ∀ earlier rest, Eventually fun fuel =>
    elements rules fuel (some (depth + 1)) earlier (skipWhitespace (source ++ closeBracket :: rest)) =
      some (.array (earlier ++ items), rest)

def MembersTaken (rules : JsonRules ν) (depth : ℕ) (source : JsString) (fields : List (JsString × Json ν)) : Prop :=
  ∀ earlier rest, Eventually fun fuel =>
    members rules fuel (some (depth + 1)) earlier (skipWhitespace (source ++ closeBrace :: rest)) =
      some (.object (fields.foldl (fun object field => rules.set object field.1 field.2) earlier), rest)

section

variable {depth : ℕ}

theorem literal_taken {literal : JsString × Json ν} (inside : literal ∈ literals ν) :
    ValueTaken rules depth literal.1 literal.2 :=
  fun rest _ => .always fun fuel => value_literal inside fuel _ rest

theorem number_taken {raw : JsString} (number_ : NumberText raw) :
    ValueTaken rules depth raw (.number (rules.literal raw)) := by
  intro rest ends
  refine .always fun fuel => ?_
  obtain ⟨unit, more, same, begins⟩ := number_.head
  have read := numberRest_complete number_ ends
  have plain : unit ≠ openBrace ∧ unit ≠ openBracket ∧ unit ≠ quote := by
    refine ⟨?_, ?_, ?_⟩ <;>
    · rintro rfl
      rcases begins with other | digit
      · exact absurd other (by decide)
      · exact absurd digit (by decide)
  have taken := take_consumed raw rest
  rw [same, List.cons_append] at read taken ⊢
  rw [value, if_neg plain.1, if_neg plain.2.1, if_neg plain.2.2, if_pos begins, read, Option.map_some, taken]

theorem string_taken {source text : JsString} (chars : CharsText rules.paired source text) :
    ValueTaken rules depth (quote :: (source ++ [quote])) (.string text) := by
  intro rest _
  refine .always fun fuel => ?_
  have read := string_complete chars rest
  rw [List.cons_append, value, if_neg (by decide), if_neg (by decide), if_pos rfl, List.append_assoc, List.singleton_append, read]
  rfl

theorem emptyArray_taken {blanks : JsString} (blank : Blanks blanks) :
    ValueTaken rules (depth + 1) (openBracket :: (blanks ++ [closeBracket])) (.array []) := by
  intro rest _
  refine .always fun fuel => ?_
  have closes := skip_sign blank (by decide : isBlank closeBracket = false) rest
  rw [List.cons_append, List.append_assoc, List.singleton_append, value, if_neg (by decide), if_pos rfl]
  simp [enter_succ, closes]

theorem emptyObject_taken (collects : Collects rules object) {blanks : JsString} (blank : Blanks blanks) :
    ValueTaken rules (depth + 1) (openBrace :: (blanks ++ [closeBrace])) (.object (object [])) := by
  intro rest _
  refine .always fun fuel => ?_
  have closes := skip_sign blank (by decide : isBlank closeBrace = false) rest
  rw [List.cons_append, List.append_assoc, List.singleton_append, value, if_pos rfl, ← collects []]
  simp [enter_succ, closes]

theorem array_taken {paired : Bool} {literal : JsString → ν} {source : JsString} {items : List (Json ν)}
    (listed : ItemsText paired literal object depth source items) (taken : ItemsTaken rules depth source items) :
    ValueTaken rules (depth + 1) (openBracket :: (source ++ [closeBracket])) (.array items) := by
  intro rest _
  obtain ⟨unit, more, begins, other⟩ := listed.head (closeBracket :: rest)
  refine (taken [] rest).succ fun fuel read => ?_
  rw [List.cons_append, List.append_assoc, List.singleton_append, value, if_neg (by decide), if_pos rfl]
  rw [begins] at read
  simp [enter_succ, begins, other, read]

theorem object_taken (collects : Collects rules object) {paired : Bool} {literal : JsString → ν} {source : JsString}
    {fields : List (JsString × Json ν)} (listed : MembersText paired literal object depth source fields)
    (taken : MembersTaken rules depth source fields) :
    ValueTaken rules (depth + 1) (openBrace :: (source ++ [closeBrace])) (.object (object fields)) := by
  intro rest _
  obtain ⟨more, begins⟩ := listed.head (closeBrace :: rest)
  refine (taken [] rest).succ fun fuel read => ?_
  rw [List.cons_append, List.append_assoc, List.singleton_append, value, if_pos rfl]
  rw [begins] at read
  have other : quote ≠ closeBrace := by decide
  simp [enter_succ, begins, other, read, collects fields]

end

section

variable {paired : Bool} {literal : JsString → ν} {depth : ℕ} {before source after others : JsString} {item : Json ν}

section

variable (before_ : Blanks before) (value_ : ValueText paired literal object depth source item) (after_ : Blanks after)
  (taken : ValueTaken rules depth source item)

include before_ value_ after_ taken

theorem lastItem_taken : ItemsTaken rules depth (before ++ (source ++ after)) [item] := by
  intro earlier rest
  have ends : Ends (after ++ closeBracket :: rest) := (Ends.sign (by simp) rest).blanks after_
  have closes := skip_sign after_ (by decide : isBlank closeBracket = false) rest
  refine (taken _ ends).succ fun fuel read => ?_
  rw [List.append_assoc, List.append_assoc, skip_value before_ value_, elements, read]
  simp [closes]

theorem moreItems_taken {items : List (Json ν)} (later : ItemsTaken rules depth others items) :
    ItemsTaken rules depth (before ++ (source ++ (after ++ comma :: others))) (item :: items) := by
  intro earlier rest
  have ends : Ends (after ++ comma :: (others ++ closeBracket :: rest)) := (Ends.sign (by simp) _).blanks after_
  have goesOn := skip_sign after_ (by decide : isBlank comma = false) (others ++ closeBracket :: rest)
  refine ((taken _ ends).and (later (earlier ++ [item]) rest)).succ fun fuel read => ?_
  have other : comma ≠ closeBracket := by decide
  simp only [List.append_assoc, List.cons_append]
  rw [skip_value before_ value_, elements, read.1]
  simp [goesOn, other, read.2]

end

variable {chars key gap behind : JsString}

section

variable (before_ : Blanks before) (key_ : CharsText rules.paired chars key) (gap_ : Blanks gap)
  (behind_ : Blanks behind) (value_ : ValueText paired literal object depth source item) (after_ : Blanks after)
  (taken : ValueTaken rules depth source item)

include before_ key_ gap_ behind_ value_ after_ taken

theorem lastMember_taken :
    MembersTaken rules depth (before ++ (quote :: (chars ++ quote :: (gap ++ colon :: (behind ++ (source ++ after)))))) [(key, item)] := by
  intro earlier rest
  have visible : isBlank quote = false ∧ isBlank colon = false := by decide
  have ends : Ends (after ++ closeBrace :: rest) := (Ends.sign (by simp) rest).blanks after_
  have closes := skip_sign after_ (by decide : isBlank closeBrace = false) rest
  refine (taken _ ends).succ fun fuel read => ?_
  simp only [List.append_assoc, List.cons_append]
  rw [skip_sign before_ visible.1, members, if_neg (by simp), string_complete key_]
  simp [skip_sign gap_ visible.2, skip_value behind_ value_, read, closes]

theorem moreMembers_taken {fields : List (JsString × Json ν)} (later : MembersTaken rules depth others fields) :
    MembersTaken rules depth
      (before ++ (quote :: (chars ++ quote :: (gap ++ colon :: (behind ++ (source ++ (after ++ comma :: others)))))))
      ((key, item) :: fields) := by
  intro earlier rest
  have visible : isBlank quote = false ∧ isBlank colon = false := by decide
  have ends : Ends (after ++ comma :: (others ++ closeBrace :: rest)) := (Ends.sign (by simp) _).blanks after_
  have goesOn := skip_sign after_ (by decide : isBlank comma = false) (others ++ closeBrace :: rest)
  refine ((taken _ ends).and (later (rules.set earlier key item) rest)).succ fun fuel read => ?_
  have other : comma ≠ closeBrace := by decide
  simp only [List.append_assoc, List.cons_append]
  rw [skip_sign before_ visible.1, members, if_neg (by simp), string_complete key_]
  simp [skip_sign gap_ visible.2, skip_value behind_ value_, read.1, goesOn, other, read.2]

end

end

/-- What is derived is taken, one case for each rule of the grammar. -/
theorem complete (collects : Collects rules object) {depth : ℕ} {source : JsString} {found : Json ν}
    (derived : ValueText rules.paired rules.literal object depth source found) : ValueTaken rules depth source found :=
  @ValueText.rec ν rules.paired rules.literal object (fun depth source found _ => ValueTaken rules depth source found)
    (fun depth source items _ => ItemsTaken rules depth source items)
    (fun depth source fields _ => MembersTaken rules depth source fields)
    (literal_taken (by simp [literals] : (js "null", Json.null) ∈ literals ν))
    (literal_taken (by simp [literals] : (js "true", Json.bool true) ∈ literals ν))
    (literal_taken (by simp [literals] : (js "false", Json.bool false) ∈ literals ν))
    number_taken string_taken emptyArray_taken array_taken (emptyObject_taken collects) (object_taken collects)
    lastItem_taken (fun before_ value_ after_ _ taken later => moreItems_taken before_ value_ after_ taken later)
    lastMember_taken
    (fun before_ key_ gap_ behind_ value_ after_ _ taken later =>
      moreMembers_taken before_ key_ gap_ behind_ value_ after_ taken later)
    depth source found derived

/-! ## Fuel -/

theorem skipWhitespace_length (text : JsString) : (skipWhitespace text).length ≤ text.length :=
  (List.dropWhile_suffix isBlank).length_le

theorem value_shorter {fuel : ℕ} {depth : Option ℕ} {text rest : JsString} {found : Json ν}
    (taken : value rules fuel depth text = some (found, rest)) : rest.length < text.length := by
  obtain ⟨level, allowed⟩ : ∃ level, Allows depth fuel level := by
    cases depth with
    | none => exact ⟨fuel, le_rfl⟩
    | some depth => exact ⟨depth - 1, rfl⟩
  obtain ⟨source, rfl, derived⟩ := (sound (fun _ => rfl : Collects rules _) fuel).1 depth level text found rest allowed taken
  obtain ⟨unit, more, rfl, -⟩ := derived.head
  rw [List.length_append, List.length_cons]
  omega

/-- Fuel past twice the length of the text changes nothing. -/
theorem fuel_enough (fuel : Nat) : (∀ depth text, 2 * text.length + 1 ≤ fuel →
      value rules (fuel + 1) depth text = value rules fuel depth text) ∧
    (∀ depth fields text, 2 * text.length + 2 ≤ fuel →
      members rules (fuel + 1) depth fields text = members rules fuel depth fields text) ∧
    (∀ depth items text, 2 * text.length + 2 ≤ fuel →
      elements rules (fuel + 1) depth items text = elements rules fuel depth items text) := by
  induction fuel with
  | zero => exact ⟨fun _ _ few => by omega, fun _ _ _ few => by omega, fun _ _ _ few => by omega⟩
  | succ fuel ih =>
    obtain ⟨valueIh, membersIh, elementsIh⟩ := ih
    refine ⟨?_, ?_, ?_⟩
    · intro depth text few
      cases text with
      | nil => rfl
      | cons unit text =>
        have blanks := skipWhitespace_length text
        rw [List.length_cons] at few
        conv_lhs => rw [value]
        conv_rhs => rw [value]
        cases entered : enter depth with
        | none => rfl
        | some depth =>
          cases skipped : skipWhitespace text with
          | nil => rfl
          | cons next behind =>
            rw [skipped] at blanks
            simp only [membersIh depth [] (next :: behind) (by omega),
              elementsIh depth [] (next :: behind) (by omega)]
    · intro depth fields text few
      cases text with
      | nil => rfl
      | cons unit text =>
        rw [List.length_cons] at few
        conv_lhs => rw [members]
        conv_rhs => rw [members]
        cases parsed : string rules.paired text with
        | none => rfl
        | some found =>
          obtain ⟨key, behind⟩ := found
          have shorter := string_length parsed
          have blanks := skipWhitespace_length behind
          cases skipped : skipWhitespace behind with
          | nil => simp only [skipped]
          | cons sign behind =>
            rw [skipped, List.length_cons] at blanks
            have moreBlanks := skipWhitespace_length behind
            simp only [skipped, valueIh depth (skipWhitespace behind) (by omega)]
            cases itemParsed : value rules fuel depth (skipWhitespace behind) with
            | none => rfl
            | some found =>
              obtain ⟨item, behind⟩ := found
              have shorter := value_shorter itemParsed
              have blanks := skipWhitespace_length behind
              cases skipped : skipWhitespace behind with
              | nil => simp only [skipped]
              | cons sign behind =>
                rw [skipped, List.length_cons] at blanks
                have lastBlanks := skipWhitespace_length behind
                simp only [skipped, membersIh depth (rules.set fields key item) (skipWhitespace behind) (by omega)]
    · intro depth items text few
      conv_lhs => rw [elements]
      conv_rhs => rw [elements]
      rw [valueIh depth text (by omega)]
      cases itemParsed : value rules fuel depth text with
      | none => rfl
      | some found =>
        obtain ⟨item, behind⟩ := found
        have shorter := value_shorter itemParsed
        have blanks := skipWhitespace_length behind
        cases skipped : skipWhitespace behind with
        | nil => simp only [skipped]
        | cons sign behind =>
          rw [skipped, List.length_cons] at blanks
          have lastBlanks := skipWhitespace_length behind
          simp only [skipped, elementsIh depth (items ++ [item]) (skipWhitespace behind) (by omega)]

/-- The parser's answer is that of any larger fuel: it never stops for lack of it. -/
theorem parse_fuel (text : JsString) (more : Nat) :
    value rules (2 * text.length + 1 + more) rules.depth (skipWhitespace text) =
      value rules (2 * text.length + 1) rules.depth (skipWhitespace text) := by
  have blanks := skipWhitespace_length text
  induction more with
  | zero => rfl
  | succ more ih => rw [← Nat.add_assoc, (fuel_enough _).1 _ _ (by omega), ih]

/-- Whitespace before a document does not matter. -/
theorem parse_blanks {blanks : JsString} (blank : ∀ unit ∈ blanks, isBlank unit = true) (text : JsString) :
    parse rules (blanks ++ text) = parse rules text := by
  have skipped : skipWhitespace (blanks ++ text) = skipWhitespace text := by
    unfold skipWhitespace
    rw [List.dropWhile_append, List.dropWhile_eq_nil_iff.mpr blank]
    rfl
  have fuel : 2 * (blanks ++ text).length + 1 = 2 * text.length + 1 + 2 * blanks.length := by
    rw [List.length_append]
    omega
  unfold parse
  rw [skipped, fuel, parse_fuel]

/-! ## The parser -/

/-- The parser takes exactly the texts of the grammar, with the values it gives them. -/
theorem parse_iff (collects : Collects rules object) {depth : ℕ} (deep : rules.depth = some (depth + 1)) (text : JsString)
    (found : Json ν) : parse rules text = some found ↔ JsonText rules.paired rules.literal object depth text found := by
  constructor
  · intro parsed
    unfold parse at parsed
    rw [deep] at parsed
    split at parsed
    · next value rest taken =>
      split at parsed
      · next blank =>
        cases parsed
        obtain ⟨source, split, derived⟩ := (sound collects _).1 (some (depth + 1)) depth _ _ _ rfl taken
        obtain ⟨before, skipped, before_⟩ := skipWhitespace_split text
        rw [skipped, split]
        exact .text before_ derived (skipWhitespace_nil blank)
      · cases parsed
    · cases parsed
  · rintro ⟨before_, derived, after_⟩
    rename_i before source after
    have ends : Ends after := by simpa using Ends.nil.blanks after_
    obtain ⟨least, every⟩ := complete collects derived after ends
    have skipped := skip_value before_ derived after
    have read := @parse_fuel ν rules (before ++ (source ++ after)) least
    rw [deep, skipped, every _ (by omega)] at read
    have behind : skipWhitespace after = [] := by
      have := skipWhitespace_blanks after_ []
      simpa [skipWhitespace] using this
    unfold parse
    rw [deep, skipped, ← read]
    exact if_pos behind

end

end JsonGrammar

end SpaceApp.Foundation
