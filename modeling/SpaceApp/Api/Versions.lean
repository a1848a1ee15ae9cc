import SpaceApp.Foundation.TextLines
import SpaceApp.Foundation.Sorting
import SpaceApp.Foundation.Scan
import Mathlib.Data.List.DropRight

/-! Version strings of packages and of CPE ranges (`security-copilot/matcher.ts`), and on which of them the
comparison is an order.
-/

set_option autoImplicit false

namespace SpaceApp.Api.Versions

open SpaceApp.Foundation

/-- What `Number` makes of digits. -/
inductive VersionNumber where
  | finite (value : ℕ)
  | infinite
  deriving DecidableEq

def VersionNumber.less : VersionNumber → VersionNumber → Bool
  | .finite a, .finite b => a < b
  | .finite _, .infinite => true
  | .infinite, _ => false

def toNumber (digits : JsString) : VersionNumber :=
  match toDouble (digitsValue digits) with
  | .finite value => .finite ⌊value⌋.toNat
  | _ => .infinite

/-- The value with the fewest digits that reads as this double, the nearer of two. -/
def shortest (value : ℕ) : ℕ :=
  let digits := (Nat.toDigits 10 value).length
  let reads := fun shown : ℕ => toDouble shown = .finite value
  let found := (List.range digits).findSome? fun kept =>
    let unit := 10 ^ (digits - 1 - kept)
    let low := value / unit * unit
    let high := low + unit
    if reads low && (!reads high || value - low ≤ high - value) then some low
    else if reads high then some high
    else none
  found.getD value

/-- `String(n)`: from `1e21` on with an exponent. -/
def numberString : VersionNumber → JsString
  | .infinite => js "Infinity"
  | .finite value =>
    let shown := shortest value
    let digits := decimal shown
    if shown < 10 ^ 21 then digits
    else
      let mantissa := digits.rdropWhile fun digit => digit == 0x30
      mantissa.take 1 ++ (if mantissa.length = 1 then [] else js "." ++ mantissa.drop 1) ++ js "e+" ++
        decimal (digits.length - 1)

inductive Part where
  | number (value : VersionNumber)
  | text (units : JsString)
  deriving DecidableEq

def Part.string : Part → JsString
  | .number value => numberString value
  | .text units => units

def isSeparator (unit : CodeUnit) : Bool :=
  unit == 0x2E || unit == 0x2D || unit == 0x2B || unit == 0x7E || unit == 0x5F

def toPart (piece : JsString) : Part :=
  if piece ≠ [] ∧ piece.all isDigitUnit then .number (toNumber piece) else .text piece

def split (version : JsString) : List Part := (version.splitOnP isSeparator).map toPart

/-- A part that is missing is 0. -/
def partAt (version : JsString) (index : ℕ) : Part := (split version).getD index (.number (.finite 0))

def compareParts : Part → Part → ℤ
  | .number x, .number y => if x.less y then -1 else 1
  | x, y => if unitsLess x.string y.string then -1 else 1

def compareVersions (left right : JsString) : ℤ :=
  let found := (List.range (max (split left).length (split right).length)).findSome? fun index =>
    let x := partAt left index
    let y := partAt right index
    if x = y then none else some (compareParts x y)
  found.getD 0

structure CpeRange where
  criteria : JsString
  vulnerable : Bool
  versionStartIncluding : Option JsString
  versionStartExcluding : Option JsString
  versionEndIncluding : Option JsString
  versionEndExcluding : Option JsString

def set (bound : Option JsString) : Option JsString := bound.filter (· ≠ [])

def exactOf (range : CpeRange) (cpeBase : JsString) : JsString :=
  (range.criteria.drop (cpeBase.length + 1)).takeWhile (· ≠ 0x3A)

def cpeRangeMatches (range : CpeRange) (cpeBase version : JsString) : Bool :=
  if !range.vulnerable || !(cpeBase ++ js ":").isPrefixOf range.criteria then false
  else
    let exact := exactOf range cpeBase
    if exact ≠ js "*" ∧ exact ≠ js "-" then compareVersions version exact == 0
    else if ((set range.versionStartIncluding).or (set range.versionStartExcluding)).or
        ((set range.versionEndIncluding).or (set range.versionEndExcluding)) = none then false
    else
      (set range.versionStartIncluding).all (fun bound => !decide (compareVersions version bound < 0)) &&
      (set range.versionStartExcluding).all (fun bound => !decide (compareVersions version bound ≤ 0)) &&
      (set range.versionEndIncluding).all (fun bound => !decide (compareVersions version bound > 0)) &&
      (set range.versionEndExcluding).all (fun bound => !decide (compareVersions version bound ≥ 0))

def CpeRange.bounds (range : CpeRange) (cpeBase : JsString) : List JsString :=
  exactOf range cpeBase ::
    [set range.versionStartIncluding, set range.versionStartExcluding, set range.versionEndIncluding,
      set range.versionEndExcluding].filterMap id

def sortVersions (versions : List JsString) : List JsString :=
  versions.insertionSort fun left right => compareVersions left right ≤ 0

def fixedFor (ranges : List CpeRange) (cpeBase version : JsString) : Option JsString :=
  (sortVersions (ranges.filterMap fun range =>
    if cpeRangeMatches range cpeBase version then set range.versionEndExcluding else none)).head?

/-- No text stands, as text, between two numbers that are in the other order as text, and none is the word for a
number that is too large. -/
structure OrderedParts (parts : Set Part) : Prop where
  between : ∀ small large text, .number small ∈ parts → .number large ∈ parts → .text text ∈ parts →
    small.less large = true → ¬ (unitsLess (numberString large) text = true ∧ unitsLess text (numberString small) = true)
  word : .number .infinite ∈ parts → .text (js "Infinity") ∉ parts

def Coherent (versions : Set JsString) : Prop :=
  ∀ index, OrderedParts {part | ∃ version ∈ versions, part = partAt version index}

theorem unitsLess_irrefl (text : JsString) : unitsLess text text = false := by
  rw [← Bool.not_eq_true, unitsLess_iff]
  exact List.lt_irrefl _

theorem unitsLess_trans {a b c : JsString} (first : unitsLess a b = true) (second : unitsLess b c = true) :
    unitsLess a c = true := by
  rw [unitsLess_iff] at first second ⊢
  exact List.lt_trans first second

theorem unitsLess_connex {a b : JsString} (distinct : a ≠ b) : unitsLess a b = true ∨ unitsLess b a = true := by
  rw [unitsLess_iff, unitsLess_iff]
  by_contra neither
  rw [not_or, List.not_lt, List.not_lt] at neither
  have same := List.le_antisymm neither.2 neither.1
  exact distinct (List.map_injective_iff.mpr (fun _ _ => UInt16.toNat_inj.mp) same)

theorem less_irrefl (value : VersionNumber) : value.less value = false := by
  cases value <;> simp [VersionNumber.less]

theorem less_trans {a b c : VersionNumber} (first : a.less b = true) (second : b.less c = true) : a.less c = true := by
  cases a <;> cases b <;> cases c <;> simp_all [VersionNumber.less]
  omega

theorem less_connex {a b : VersionNumber} (distinct : a ≠ b) : a.less b = true ∨ b.less a = true := by
  cases a <;> cases b <;> simp_all [VersionNumber.less]

theorem decimal_numeric (value : ℕ) : decimal value ≠ [] ∧ (decimal value).all isDigitUnit = true :=
  ⟨decimal_ne_nil value, List.all_eq_true.mpr (decimal_digits value)⟩

def Part.Proper : Part → Prop
  | .number _ => True
  | .text units => ¬ (units ≠ [] ∧ units.all isDigitUnit = true) ∧ 0x2B ∉ units

theorem numberString_ne {value : VersionNumber} {units : JsString} (proper : (Part.text units).Proper)
    (word : value = .infinite → units ≠ js "Infinity") : numberString value ≠ units := by
  intro same
  cases value with
  | infinite => exact word rfl same.symm
  | finite value =>
    simp only [numberString] at same
    split at same
    · exact proper.1 (same ▸ decimal_numeric _)
    · refine proper.2 (same ▸ ?_)
      have plus : (0x2B : CodeUnit) ∈ js "e+" := by decide
      simp [plus]

theorem partAt_proper (version : JsString) (index : ℕ) : (partAt version index).Proper := by
  rw [partAt, split, List.getD_eq_getElem?_getD, List.getElem?_map]
  cases found : (version.splitOnP isSeparator)[index]? with
  | none => trivial
  | some piece =>
    have free := fun unit there => (splitOnP_pieces isSeparator version piece (List.mem_of_getElem? found) unit there).1
    rw [Option.map_some, Option.getD_some, toPart]
    split
    · trivial
    · next textual =>
      refine ⟨textual, ?_⟩
      intro plus
      exact absurd (free _ plus) (by decide)

def lessPart : Part → Part → Bool
  | .number x, .number y => x.less y
  | x, y => unitsLess x.string y.string

theorem compareParts_eq (x y : Part) : compareParts x y = if lessPart x y then -1 else 1 := by
  cases x <;> cases y <;> rfl

theorem lessPart_irrefl (x : Part) : lessPart x x = false := by
  cases x with
  | number value => exact less_irrefl value
  | text units => exact unitsLess_irrefl units

theorem lessPart_asymm {x y : Part} (before : lessPart x y = true) : lessPart y x = false := by
  rw [← Bool.not_eq_true]
  intro after
  cases x with
  | number a =>
    cases y with
    | number b =>
      have circle := less_trans before after
      rw [less_irrefl] at circle
      cases circle
    | text t =>
      have circle := unitsLess_trans before after
      rw [unitsLess_irrefl] at circle
      cases circle
  | text s =>
    cases y with
    | number b =>
      have circle := unitsLess_trans before after
      rw [unitsLess_irrefl] at circle
      cases circle
    | text t =>
      have circle := unitsLess_trans before after
      rw [unitsLess_irrefl] at circle
      cases circle

section
variable {parts : Set Part} (ordered : OrderedParts parts) (proper : ∀ part ∈ parts, part.Proper)

include ordered proper

/-- A number and a text are never the same word. -/
theorem apart {value : VersionNumber} {units : JsString} (number : .number value ∈ parts) (text : .text units ∈ parts) :
    numberString value ≠ units := by
  refine numberString_ne (proper _ text) ?_
  intro large word
  exact ordered.word (large ▸ number) (word ▸ text)

theorem lessPart_connex {x y : Part} (first : x ∈ parts) (second : y ∈ parts) (distinct : x ≠ y) :
    lessPart x y = true ∨ lessPart y x = true := by
  cases x with
  | number a =>
    cases y with
    | number b => exact less_connex fun same => distinct (same ▸ rfl)
    | text t => exact unitsLess_connex (apart ordered proper first second)
  | text s =>
    cases y with
    | number b => exact unitsLess_connex (apart ordered proper second first).symm
    | text t => exact unitsLess_connex fun same => distinct (congrArg Part.text same)

theorem lessPart_trans {x y z : Part} (first : x ∈ parts) (second : y ∈ parts) (third : z ∈ parts)
    (before : lessPart x y = true) (after : lessPart y z = true) : lessPart x z = true := by
  cases x with
  | number a =>
    cases y with
    | number b =>
      cases z with
      | number c => exact less_trans before after
      | text t =>
        -- the text is after the larger number, so it cannot be before the smaller one
        refine (unitsLess_connex (apart ordered proper first third)).resolve_right ?_
        exact fun below => ordered.between a b t first second third before ⟨after, below⟩
    | text t =>
      cases z with
      | number c =>
        have distinct : a ≠ c := by
          rintro rfl
          have circle := unitsLess_trans before after
          rw [unitsLess_irrefl] at circle
          cases circle
        refine (less_connex distinct).resolve_right ?_
        exact fun below => ordered.between c a t third first second below ⟨before, after⟩
      | text u => exact unitsLess_trans before after
  | text s =>
    cases y with
    | number b =>
      cases z with
      | number c =>
        refine (unitsLess_connex (apart ordered proper third first).symm).resolve_right ?_
        exact fun below => ordered.between b c s second third first after ⟨below, before⟩
      | text u => exact unitsLess_trans before after
    | text t =>
      cases z with
      | number c => exact unitsLess_trans before after
      | text u => exact unitsLess_trans before after

end

/-- The comparison is decided at the first place where the versions differ. -/
theorem compareVersions_cases (a b : JsString) :
    ((∀ index, partAt a index = partAt b index) ∧ compareVersions a b = 0) ∨
      ∃ first, partAt a first ≠ partAt b first ∧ (∀ index < first, partAt a index = partAt b index) ∧
        compareVersions a b = compareParts (partAt a first) (partAt b first) := by
  have beyond : ∀ index, max (split a).length (split b).length ≤ index → partAt a index = partAt b index := by
    intro index past
    rw [partAt, partAt, List.getD_eq_getElem?_getD, List.getD_eq_getElem?_getD, List.getElem?_eq_none (by omega),
      List.getElem?_eq_none (by omega)]
  rw [compareVersions]
  rcases findSome_range_cases (fun index =>
    if partAt a index = partAt b index then none else some (compareParts (partAt a index) (partAt b index)))
    (max (split a).length (split b).length) with ⟨none_found, same⟩ | ⟨first, inside, found, filled, same⟩
  · refine .inl ⟨?_, by simp only [none_found, Option.getD_none]⟩
    intro index
    by_cases inside : index < max (split a).length (split b).length
    · by_contra differ
      exact absurd (same index inside) (by simp [differ])
    · exact beyond index (not_lt.mp inside)
  · have differ : partAt a first ≠ partAt b first := by
      intro equal
      exact filled (by simp [equal])
    refine .inr ⟨first, differ, ?_, by simp only [found, if_neg differ, Option.getD_some]⟩
    intro index before
    by_contra apart
    exact absurd (same index before) (by simp [apart])

section

variable {a b : JsString}

theorem compareVersions_same (same : ∀ index, partAt a index = partAt b index) : compareVersions a b = 0 := by
  rcases compareVersions_cases a b with ⟨_, equal⟩ | ⟨first, differ, _⟩
  · exact equal
  · exact absurd (same first) differ

theorem compareVersions_at {first : ℕ} (differ : partAt a first ≠ partAt b first)
    (before : ∀ index < first, partAt a index = partAt b index) :
    compareVersions a b = if lessPart (partAt a first) (partAt b first) then -1 else 1 := by
  rcases compareVersions_cases a b with ⟨same, _⟩ | ⟨other, differ', before', decided⟩
  · exact absurd (same first) differ
  · rcases lt_trichotomy other first with earlier | rfl | later
    · exact absurd (before other earlier) differ'
    · rw [decided, compareParts_eq]
    · exact absurd (before' first later) differ

theorem compareVersions_le : compareVersions a b ≤ 0 ↔ (∀ index, partAt a index = partAt b index) ∨
      ∃ first, lessPart (partAt a first) (partAt b first) = true ∧ ∀ index < first, partAt a index = partAt b index := by
  constructor
  · intro below
    rcases compareVersions_cases a b with ⟨same, _⟩ | ⟨first, differ, before, _⟩
    · exact .inl same
    · refine .inr ⟨first, ?_, before⟩
      rw [compareVersions_at differ before] at below
      by_contra above
      rw [if_neg above] at below
      omega
  · rintro (same | ⟨first, less, before⟩)
    · exact (compareVersions_same same).le
    · have differ : partAt a first ≠ partAt b first := by
        intro equal
        rw [equal, lessPart_irrefl] at less
        cases less
      rw [compareVersions_at differ before, if_pos less]
      omega

theorem compareVersions_antisymm (below : compareVersions a b ≤ 0) (above : compareVersions b a ≤ 0) :
    compareVersions a b = 0 := by
  rcases compareVersions_cases a b with ⟨_, equal⟩ | ⟨first, differ, before, _⟩
  · exact equal
  · rw [compareVersions_at differ before] at below
    rw [compareVersions_at differ.symm fun index earlier => (before index earlier).symm] at above
    by_cases less : lessPart (partAt a first) (partAt b first) = true
    · rw [lessPart_asymm less] at above
      simp at above
    · rw [if_neg less] at below
      omega

/-- Versions that compare as equal are alike in every comparison. -/
theorem compareVersions_alike (equal : compareVersions a b = 0) : compareVersions a = compareVersions b := by
  have same : ∀ index, partAt a index = partAt b index := by
    rcases compareVersions_cases a b with ⟨same, _⟩ | ⟨first, differ, before, _⟩
    · exact same
    · rw [compareVersions_at differ before] at equal
      split at equal <;> omega
  funext c
  rcases compareVersions_cases a c with ⟨same', equal'⟩ | ⟨first, differ, before, _⟩
  · rw [equal', compareVersions_same fun index => (same index).symm.trans (same' index)]
  · rw [compareVersions_at differ before, same first, compareVersions_at (same first ▸ differ)]
    exact fun index earlier => (same index).symm.trans (before index earlier)

end

theorem proper_parts (versions : Set JsString) (index : ℕ) : ∀ part ∈ {part | ∃ version ∈ versions, part = partAt version index}, part.Proper := by
  rintro part ⟨version, _, rfl⟩
  exact partAt_proper version index

section
variable {versions : Set JsString} (coherent : Coherent versions)

include coherent

theorem compareVersions_swap {a b : JsString} (first : a ∈ versions) (second : b ∈ versions) :
    compareVersions a b = -compareVersions b a := by
  rcases compareVersions_cases a b with ⟨same, equal⟩ | ⟨place, differ, before, _⟩
  · rw [equal, compareVersions_same fun index => (same index).symm, neg_zero]
  · rw [compareVersions_at differ before, compareVersions_at differ.symm fun index earlier => (before index earlier).symm]
    rcases lessPart_connex (coherent place) (proper_parts versions place) ⟨a, first, rfl⟩ ⟨b, second, rfl⟩ differ with
      less | more
    · rw [if_pos less, lessPart_asymm less]
      rfl
    · rw [if_pos more, lessPart_asymm more]
      rfl

theorem compareVersions_trans {a b c : JsString} (first : a ∈ versions) (second : b ∈ versions) (third : c ∈ versions)
    (before : compareVersions a b ≤ 0) (after : compareVersions b c ≤ 0) : compareVersions a c ≤ 0 := by
  rw [compareVersions_le] at before after ⊢
  rcases before with same | ⟨place, less, before⟩
  · simpa only [same] using after
  · rcases after with same' | ⟨place', less', before'⟩
    · refine .inr ⟨place, by rw [← same' place]; exact less, ?_⟩
      intro index earlier
      rw [before index earlier, same' index]
    · -- the first of the two places decides
      rcases lt_trichotomy place place' with earlier | equal | later
      · refine .inr ⟨place, by rw [← before' place earlier]; exact less, ?_⟩
        intro index sooner
        rw [before index sooner, before' index (sooner.trans earlier)]
      · subst equal
        refine .inr ⟨place, ?_, ?_⟩
        · exact lessPart_trans (coherent place) (proper_parts versions place) ⟨a, first, rfl⟩ ⟨b, second, rfl⟩
            ⟨c, third, rfl⟩ less less'
        · intro index sooner
          rw [before index sooner, before' index sooner]
      · refine .inr ⟨place', by rw [before place' later]; exact less', ?_⟩
        intro index sooner
        rw [before index (sooner.trans later), before' index sooner]

section
variable {a b : JsString} (first : a ∈ versions) (second : b ∈ versions) (below : compareVersions a b ≤ 0)
  {bound : Option JsString} (bounds : ∀ version ∈ bound, version ∈ versions)

include first second below bounds

/-- A bound from below goes up from one version to the next, a bound from above goes down. -/
theorem bound_between : ((bound.all (fun bound => !decide (compareVersions a bound < 0)) = true →
        bound.all (fun bound => !decide (compareVersions b bound < 0)) = true) ∧
      (bound.all (fun bound => !decide (compareVersions a bound ≤ 0)) = true →
        bound.all (fun bound => !decide (compareVersions b bound ≤ 0)) = true)) ∧
    (bound.all (fun bound => !decide (compareVersions b bound > 0)) = true →
      bound.all (fun bound => !decide (compareVersions a bound > 0)) = true) ∧
    (bound.all (fun bound => !decide (compareVersions b bound ≥ 0)) = true →
      bound.all (fun bound => !decide (compareVersions a bound ≥ 0)) = true) := by
  cases bound with
  | none => simp
  | some bound =>
    have third := bounds bound rfl
    have swapped := compareVersions_swap coherent first third
    have swapped' := compareVersions_swap coherent second third
    have forward := compareVersions_trans coherent third first second
    have backward := compareVersions_trans coherent first second third below
    simp only [Option.all_some, Bool.not_eq_true', decide_eq_false_iff_not, not_lt, ge_iff_le, gt_iff_lt, not_le]
    omega

end

omit coherent in
theorem mem_bounds {range : CpeRange} {cpeBase bound : JsString} :
    bound ∈ range.bounds cpeBase ↔ bound = exactOf range cpeBase ∨ bound ∈ set range.versionStartIncluding ∨
      bound ∈ set range.versionStartExcluding ∨ bound ∈ set range.versionEndIncluding ∨
        bound ∈ set range.versionEndExcluding := by
  simp [CpeRange.bounds, List.mem_filterMap, eq_comm (a := some bound)]

theorem cpeRangeMatches_between {range : CpeRange} {cpeBase u v w : JsString}
    (bounds : ∀ bound ∈ range.bounds cpeBase, bound ∈ versions) (first : u ∈ versions) (second : v ∈ versions)
    (third : w ∈ versions) (below : compareVersions u v ≤ 0) (above : compareVersions v w ≤ 0)
    (low : cpeRangeMatches range cpeBase u = true) (high : cpeRangeMatches range cpeBase w = true) :
    cpeRangeMatches range cpeBase v = true := by
  have exact_bound := bounds _ (mem_bounds.mpr (.inl rfl))
  rw [cpeRangeMatches] at low high ⊢
  split at low
  · cases low
  · next named =>
    rw [if_neg named] at high ⊢
    dsimp only at low high ⊢
    split at low
    · next exact_one =>
      rw [if_pos exact_one] at high ⊢
      rw [beq_iff_eq] at low high ⊢
      -- both ends equal the one version, and so does what is between them
      have swapped := compareVersions_swap coherent first exact_bound
      have reached := compareVersions_trans coherent exact_bound first second (by omega) below
      have reaches := compareVersions_trans coherent second third exact_bound above (by omega)
      have swapped' := compareVersions_swap coherent second exact_bound
      omega
    · next open_one =>
      rw [if_neg open_one] at high ⊢
      split at low
      · cases low
      · next bounded =>
        rw [if_neg bounded] at high ⊢
        simp only [Bool.and_eq_true] at low high ⊢
        obtain ⟨⟨⟨starts, after⟩, _⟩, _⟩ := low
        obtain ⟨⟨_, ends⟩, before⟩ := high
        refine ⟨⟨⟨?_, ?_⟩, ?_⟩, ?_⟩
        · exact (bound_between coherent first second below fun version member =>
            bounds version (mem_bounds.mpr (.inr (.inl member)))).1.1 starts
        · exact (bound_between coherent first second below fun version member =>
            bounds version (mem_bounds.mpr (.inr (.inr (.inl member))))).1.2 after
        · exact (bound_between coherent second third above fun version member =>
            bounds version (mem_bounds.mpr (.inr (.inr (.inr (.inl member)))))).2.1 ends
        · exact (bound_between coherent second third above fun version member =>
            bounds version (mem_bounds.mpr (.inr (.inr (.inr (.inr member)))))).2.2 before

theorem sortVersions_perm {left right : List JsString} (members : ∀ version ∈ left, version ∈ versions)
    (shuffled : left.Perm right) :
    List.Forall₂ (fun a b => compareVersions a b = 0) (sortVersions left) (sortVersions right) := by
  have sorted := insertionSort_perm (fun a b => compareVersions a b ≤ 0) shuffled ?_ ?_
  · exact sorted.imp fun a b ties => compareVersions_antisymm ties.1 ties.2
  · intro a first b second
    have swapped := compareVersions_swap coherent (members a first) (members b second)
    omega
  · intro a first b second c third
    exact compareVersions_trans coherent (members a first) (members b second) (members c third)

theorem fixedFor_perm {ranges others : List CpeRange} {cpeBase version : JsString}
    (bounds : ∀ range ∈ ranges, ∀ bound ∈ range.bounds cpeBase, bound ∈ versions) (shuffled : ranges.Perm others) :
    Option.Rel (fun a b => compareVersions a b = 0) (fixedFor ranges cpeBase version) (fixedFor others cpeBase version) := by
  have members : ∀ bound ∈ ranges.filterMap fun range =>
      if cpeRangeMatches range cpeBase version then set range.versionEndExcluding else none, bound ∈ versions := by
    intro bound member
    obtain ⟨range, inside, found⟩ := List.mem_filterMap.mp member
    refine bounds range inside bound ?_
    split at found
    · exact mem_bounds.mpr (.inr (.inr (.inr (.inr found))))
    · cases found
  have sorted := sortVersions_perm coherent members (shuffled.filterMap _)
  rw [fixedFor, fixedFor]
  generalize sortVersions (ranges.filterMap _) = first at sorted
  generalize sortVersions (others.filterMap _) = second at sorted
  cases sorted with
  | nil => exact .none
  | cons tie _ => exact .some tie

end

theorem numberString_head (value : ℕ) : ∃ first rest, numberString (.finite value) = first :: rest ∧ first ≤ 0x39 := by
  have plain : ∀ value, ∃ first rest, decimal value = first :: rest ∧ first ≤ 0x39 := by
    intro value
    obtain ⟨filled, digits⟩ := decimal_numeric value
    cases shown : decimal value with
    | nil => exact absurd shown filled
    | cons first rest =>
      rw [shown, List.all_cons, Bool.and_eq_true] at digits
      simp only [isDigitUnit, Bool.and_eq_true, decide_eq_true_eq] at digits
      exact ⟨first, rest, rfl, digits.1.2⟩
  simp only [numberString]
  split
  · exact plain _
  · obtain ⟨first, rest, digits, small⟩ := plain (shortest value)
    rw [digits]
    cases mantissa : (first :: rest).rdropWhile fun digit => digit == 0x30 with
    | nil => exact ⟨0x2E, _, rfl, by decide⟩
    | cons unit units =>
      have kept : unit :: units <+: first :: rest := mantissa ▸ List.rdropWhile_prefix _ _
      have same : unit = first := (List.cons_prefix_cons.mp kept).1
      exact ⟨unit, _, rfl, same ▸ small⟩

theorem coherent_words {versions : Set JsString}
    (words : ∀ version ∈ versions, ∀ units, .text units ∈ split version →
      (∃ first rest, units = first :: rest ∧ 0x39 < first) ∧ units ≠ js "Infinity") :
    Coherent versions := by
  intro index
  have listed : ∀ units, .text units ∈ {part | ∃ version ∈ versions, part = partAt version index} →
      (∃ first rest, units = first :: rest ∧ 0x39 < first) ∧ units ≠ js "Infinity" := by
    rintro units ⟨version, member, found⟩
    refine words version member units ?_
    rw [partAt, List.getD_eq_getElem?_getD] at found
    cases there : (split version)[index]? with
    | none => simp [there] at found
    | some part =>
      rw [there, Option.getD_some] at found
      exact found ▸ List.mem_of_getElem? there
  constructor
  · intro small large units _ _ text less ⟨_, below⟩
    obtain ⟨⟨first, rest, rfl, letter⟩, _⟩ := listed units text
    cases small with
    | infinite => simp [VersionNumber.less] at less
    | finite value =>
      obtain ⟨digit, others, shown, low⟩ := numberString_head value
      have order : digit.toNat < first.toNat :=
        lt_of_le_of_lt (UInt16.le_iff_toNat_le.mp low) (UInt16.lt_iff_toNat_lt.mp letter)
      have distinct : first ≠ digit := fun same => order.ne (congrArg UInt16.toNat same.symm)
      rw [shown, unitsLess, if_neg distinct, decide_eq_true_iff, UInt16.lt_iff_toNat_lt] at below
      exact order.asymm below
  · intro _ word
    exact (listed _ word).2 rfl

example : compareVersions (js "8.4.27") (js "8.4.3") = 1 ∧ compareVersions (js "7.1.33") (js "7.3.0") = -1 ∧
    compareVersions (js "1.0") (js "1.0.0") = 0 := by decide +kernel

/-- On versions whose texts stand between no numbers the wrong way round, the comparison is antisymmetric and
transitive, a range is convex, and the order of the input is lost by sorting. -/
theorem compareVersions_preorder (versions : Set JsString) (coherent : Coherent versions) :
    (∀ a ∈ versions, ∀ b ∈ versions, compareVersions a b = -compareVersions b a) ∧
    (∀ a ∈ versions, ∀ b ∈ versions, ∀ c ∈ versions,
      compareVersions a b ≤ 0 → compareVersions b c ≤ 0 → compareVersions a c ≤ 0) ∧
    (∀ range cpeBase, (∀ bound ∈ range.bounds cpeBase, bound ∈ versions) →
      ∀ u ∈ versions, ∀ v ∈ versions, ∀ w ∈ versions, compareVersions u v ≤ 0 → compareVersions v w ≤ 0 →
        cpeRangeMatches range cpeBase u = true → cpeRangeMatches range cpeBase w = true →
          cpeRangeMatches range cpeBase v = true) ∧
    (∀ left right : List JsString, (∀ version ∈ left, version ∈ versions) → left.Perm right →
      List.Forall₂ (fun a b => compareVersions a b = 0) (sortVersions left) (sortVersions right)) ∧
    ∀ ranges others cpeBase version, (∀ range ∈ ranges, ∀ bound ∈ range.bounds cpeBase, bound ∈ versions) →
      ranges.Perm others →
        Option.Rel (fun a b => compareVersions a b = 0) (fixedFor ranges cpeBase version) (fixedFor others cpeBase version) := by
  refine ⟨?_, ?_, ?_, ?_, ?_⟩
  · intro a first b second
    exact compareVersions_swap coherent first second
  · intro a first b second c third
    exact compareVersions_trans coherent first second third
  · intro range cpeBase bounds u first v second w third
    exact cpeRangeMatches_between coherent bounds first second third
  · intro left right members shuffled
    exact sortVersions_perm coherent members shuffled
  · intro ranges others cpeBase version bounds shuffled
    exact fixedFor_perm coherent bounds shuffled

theorem compareVersions_preorder_candidates :
    compareVersions (js "1.9") (js "1.10") = -compareVersions (js "1.10") (js "1.9") ∧
      compareVersions (js "1.9") (js "1.10-rc1") ≤ 0 := by
  have coherent : Coherent {version | version ∈ [js "1.9", js "1.10", js "1.10-rc1"]} := by
    refine coherent_words ?_
    have parts : [js "1.9", js "1.10", js "1.10-rc1"].flatMap split =
        [.number (.finite 1), .number (.finite 9), .number (.finite 1), .number (.finite 10), .number (.finite 1),
          .number (.finite 10), .text (js "rc1")] := by
      decide +kernel
    intro version member units text
    have listed : Part.text units ∈ [js "1.9", js "1.10", js "1.10-rc1"].flatMap split :=
      List.mem_flatMap.mpr ⟨version, member, text⟩
    rw [parts] at listed
    simp only [List.mem_cons, reduceCtorEq, false_or, List.not_mem_nil, or_false, Part.text.injEq] at listed
    subst listed
    exact ⟨⟨0x72, js "c1", by decide, by decide⟩, by decide⟩
  obtain ⟨swap, transitive, _⟩ := compareVersions_preorder _ coherent
  refine ⟨swap _ (by simp) _ (by simp), ?_⟩
  exact transitive (js "1.9") (by simp) (js "1.10") (by simp) (js "1.10-rc1") (by simp) (by decide +kernel) (by decide +kernel)

/-- Read as numbers 2 comes before 10, as text 10 before 1a and 1a before 2; and 400 digits are infinite. -/
theorem compareVersions_cycle :
    (¬ ∀ a b c, compareVersions a b ≤ 0 → compareVersions b c ≤ 0 → compareVersions a c ≤ 0) ∧
      ¬ ∀ a b, compareVersions a b = -compareVersions b a := by
  constructor
  · intro transitive
    have back := transitive (js "1a") (js "2") (js "10") (by decide +kernel) (by decide +kernel)
    exact absurd back (by decide +kernel)
  · intro antisymmetric
    exact absurd (antisymmetric (js "Infinity") (List.replicate 400 0x39)) (by decide +kernel)

end SpaceApp.Api.Versions
