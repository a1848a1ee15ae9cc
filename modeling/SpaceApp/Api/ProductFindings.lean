import SpaceApp.Api.Versions

/-! Findings about software that only NVD's CPE ranges speak of (`security-copilot/matcher.ts`), and when the
release they name as the fix is one.
-/

set_option autoImplicit false

namespace SpaceApp.Api.Versions

open SpaceApp.Foundation

inductive SecurityProduct where
  | php | node | openssh | nginx | openssl | linuxKernel | proxmoxVe | plesk | chrome | postgresql | docker
  | windows | windowsServer | macos
  deriving DecidableEq

def SecurityProduct.name : SecurityProduct → JsString
  | .php => js "php" | .node => js "node" | .openssh => js "openssh" | .nginx => js "nginx" | .openssl => js "openssl"
  | .linuxKernel => js "linux_kernel" | .proxmoxVe => js "proxmox_ve" | .plesk => js "plesk" | .chrome => js "chrome"
  | .postgresql => js "postgresql" | .docker => js "docker" | .windows => js "windows"
  | .windowsServer => js "windows_server" | .macos => js "macos"

inductive SecuritySeverity where
  | critical | high | medium | low | unknown
  deriving DecidableEq

def SecuritySeverity.rank : SecuritySeverity → ℕ
  | .critical => 4 | .high => 3 | .medium => 2 | .low => 1 | .unknown => 0

inductive SecurityPriority where
  | p0 | p1 | p2 | p3

inductive SecurityAdvisorySource where
  | kev | osv | nvd | distro | epss | internetdb | news | vendor | image

structure KevEntry where
  cveID : JsString
  dateAdded : JsString

structure NvdCve where
  id : JsString
  published : Option JsString
  cvss : Option ℚ
  severity : SecuritySeverity
  ranges : List CpeRange

structure InventoryProduct where
  product : SecurityProduct
  version : JsString
  path : Option JsString

structure SecurityAdvisory where
  id : JsString
  aliases : List JsString := []
  sources : List SecurityAdvisorySource
  title : JsString
  severity : SecuritySeverity
  cvss : Option ℚ := none
  epss : Option ℚ := none
  kev : Bool := false
  kevAddedAt : Option JsString := none
  publishedAt : Option JsString := none
  references : List JsString := []

structure FindingDraft where
  advisoryId : JsString
  advisory : SecurityAdvisory
  package : JsString
  installedVersion : JsString
  fixedVersion : Option JsString
  priority : SecurityPriority

/-- `PRODUCT_CPE` -/
def productCpe : SecurityProduct → Option JsString
  | .php => js "cpe:2.3:a:php:php"
  | .node => js "cpe:2.3:a:nodejs:node.js"
  | .chrome => js "cpe:2.3:a:google:chrome"
  | .proxmoxVe => js "cpe:2.3:a:proxmox:virtual_environment"
  | _ => none

def priorityOf (advisory : SecurityAdvisory) (exploitedNews : Bool) : SecurityPriority :=
  if advisory.kev || exploitedNews then .p0
  else match advisory.severity with
    | .critical => .p1
    | .high | .unknown => .p2
    | _ => .p3

def NvdCve.affects (cve : NvdCve) (cpe version : JsString) : Bool :=
  cve.ranges.any fun range => cpeRangeMatches range cpe version

/-- The worst first. -/
def groupSorted (localeCompare : JsString → JsString → ℤ) (group : List NvdCve) : List NvdCve :=
  group.insertionSort fun left right =>
    let scores := right.cvss.getD 0 - left.cvss.getD 0
    if scores ≠ 0 then scores < 0 else localeCompare left.id right.id ≤ 0

/-- The release that fixes every one of the CVEs, of the releases that fix each. -/
def fixedOf (fixes : List (Option JsString)) : Option JsString :=
  if none ∈ fixes then none else (sortVersions (fixes.filterMap id)).getLast?

def productFinding (localeCompare : JsString → JsString → ℤ) (cves : List NvdCve) (kev : JsString → Option KevEntry)
    (item : InventoryProduct) : Option FindingDraft := do
  let cpe ← productCpe item.product
  let group := groupSorted localeCompare (cves.filter fun cve => cve.affects cpe item.version)
  let first ← group.head?
  let ids := group.map NvdCve.id
  let kevHit := ids.findSome? kev
  let worst := group.foldl (fun max cve => if max.rank < cve.severity.rank then cve.severity else max) .unknown
  let fixed := fixedOf (group.map fun cve => fixedFor cve.ranges cpe item.version)
  let one := group.length = 1
  let enriched : SecurityAdvisory :=
    { id := js "NVD:" ++ item.product.name
      aliases := ((kevHit.map KevEntry.cveID).toList ++
        ids.filter fun id => some id ≠ kevHit.map KevEntry.cveID).take 40
      sources := if kevHit.isSome then [.nvd, .kev] else [.nvd]
      kev := kevHit.isSome
      kevAddedAt := kevHit.map KevEntry.dateAdded
      title := item.product.name ++ js " " ++ item.version ++ js " has " ++ decimal group.length ++ js " known CVE" ++
        (if one then [] else js "s") ++
        (match set fixed with
          | some fixed => js "; " ++ fixed ++ js " fixes " ++ (if one then js "it" else js "them all")
          | none => []) ++ js " (worst " ++ first.id ++ js ")"
      severity := worst
      cvss := first.cvss
      publishedAt := first.published
      references := (ids.take 5).map fun id => js "https://nvd.nist.gov/vuln/detail/" ++ id }
  return {
    advisoryId := enriched.id
    advisory := enriched
    package := match set item.path with
      | some path => item.product.name ++ js ":" ++ path
      | none => item.product.name
    installedVersion := item.version
    fixedVersion := fixed
    priority := priorityOf enriched false }

def productFindings (localeCompare : JsString → JsString → ℤ) (products : List InventoryProduct) (cves : List NvdCve)
    (kev : JsString → Option KevEntry) : List FindingDraft :=
  products.filterMap (productFinding localeCompare cves kev)

def Part.isNumber : Part → Bool
  | .number _ => true
  | .text _ => false

def Numeric (version : JsString) : Prop := ∀ part ∈ split version, part.isNumber = true

instance instDecidableNumeric (version : JsString) : Decidable (Numeric version) :=
  inferInstanceAs (Decidable (∀ part ∈ split version, part.isNumber = true))

theorem coherent_numeric : Coherent {version | Numeric version} := by
  have wordless : ∀ version units index, Numeric version → .text units ≠ partAt version index := by
    intro version units index numeric same
    rw [partAt, List.getD_eq_getElem?_getD] at same
    cases there : (split version)[index]? with
    | none => simp [there] at same
    | some part =>
      have number := numeric part (List.mem_of_getElem? there)
      simp only [there, Option.getD_some] at same
      rw [← same] at number
      cases number
  intro index
  constructor
  · rintro small large units _ _ ⟨version, numeric, same⟩
    exact absurd same (wordless version units index numeric)
  · rintro _ ⟨version, numeric, same⟩
    exact wordless version _ index numeric same

/-- All versions in the ranges of the product, and its own, are numeric. -/
def NumericVersions (cves : List NvdCve) (item : InventoryProduct) : Prop :=
  Numeric item.version ∧ ∀ cpe ∈ productCpe item.product, ∀ cve ∈ cves, ∀ range ∈ cve.ranges,
    (cpe ++ js ":").isPrefixOf range.criteria = true →
      (exactOf range cpe = js "*" ∨ exactOf range cpe = js "-" ∨ Numeric (exactOf range cpe)) ∧
        ∀ bound ∈ (range.bounds cpe).tail, Numeric bound

section
variable {versions : List JsString} (numeric : ∀ version ∈ versions, Numeric version)

include numeric

theorem sortVersions_sorted : (sortVersions versions).Pairwise fun a b => compareVersions a b ≤ 0 := by
  apply insertionSort_sorted
  · intro a first b second
    have swapped := compareVersions_swap coherent_numeric (numeric a first) (numeric b second)
    omega
  · intro a first b second c third
    exact compareVersions_trans coherent_numeric (numeric a first) (numeric b second) (numeric c third)

theorem sortVersions_head {least : JsString} (found : (sortVersions versions).head? = some least) :
    least ∈ versions ∧ ∀ version ∈ versions, compareVersions least version ≤ 0 := by
  obtain ⟨rest, sorted⟩ := List.head?_eq_some_iff.mp found
  have ordered := sortVersions_sorted numeric
  have same : ∀ version, version ∈ versions ↔ version ∈ least :: rest := by
    intro version
    rw [← sorted, sortVersions, List.mem_insertionSort]
  rw [sorted, List.pairwise_cons] at ordered
  refine ⟨(same least).mpr List.mem_cons_self, ?_⟩
  intro version member
  rcases List.mem_cons.mp ((same version).mp member) with rfl | later
  · exact (compareVersions_same fun _ => rfl).le
  · exact ordered.1 version later

theorem sortVersions_last {greatest : JsString} (found : (sortVersions versions).getLast? = some greatest) :
    greatest ∈ versions ∧ ∀ version ∈ versions, compareVersions version greatest ≤ 0 := by
  obtain ⟨rest, sorted⟩ := List.getLast?_eq_some_iff.mp found
  have ordered := sortVersions_sorted numeric
  have same : ∀ version, version ∈ versions ↔ version ∈ rest ++ [greatest] := by
    intro version
    rw [← sorted, sortVersions, List.mem_insertionSort]
  rw [sorted, List.pairwise_append] at ordered
  refine ⟨(same greatest).mpr (by simp), ?_⟩
  intro version member
  rcases List.mem_append.mp ((same version).mp member) with earlier | last
  · exact ordered.2.2 version earlier greatest (by simp)
  · rw [List.mem_singleton.mp last]
    exact (compareVersions_same fun _ => rfl).le

end

theorem sortVersions_ne_nil {versions : List JsString} (filled : versions ≠ []) : sortVersions versions ≠ [] := by
  intro empty
  have lengths := List.length_insertionSort (fun a b => compareVersions a b ≤ 0) versions
  rw [← sortVersions, empty] at lengths
  exact filled (List.length_eq_zero_iff.mp lengths.symm)

/-- The exclusive ends of the ranges that hold the version. -/
def NvdCve.ends (cve : NvdCve) (cpe version : JsString) : List JsString :=
  cve.ranges.filterMap fun range => if cpeRangeMatches range cpe version then set range.versionEndExcluding else none

/-- It is the first end of one CVE, and every CVE has an end by then. -/
def EndsLast (group : List NvdCve) (cpe version release : JsString) : Prop :=
  (∃ cve ∈ group, release ∈ cve.ends cpe version ∧ ∀ other ∈ cve.ends cpe version, compareVersions release other ≤ 0) ∧
    ∀ cve ∈ group, ∃ other ∈ cve.ends cpe version, compareVersions other release ≤ 0

section
variable {group : List NvdCve} {cpe version : JsString}
  (numeric : ∀ cve ∈ group, ∀ bound ∈ cve.ends cpe version, Numeric bound)

include numeric

theorem fixedFor_first {cve : NvdCve} (member : cve ∈ group) {first : JsString}
    (found : fixedFor cve.ranges cpe version = some first) :
    first ∈ cve.ends cpe version ∧ ∀ other ∈ cve.ends cpe version, compareVersions first other ≤ 0 :=
  sortVersions_head (numeric cve member) found

theorem fixes_numeric : ∀ fixed ∈ (group.map fun cve => fixedFor cve.ranges cpe version).filterMap id, Numeric fixed := by
  intro fixed member
  obtain ⟨_, listed, rfl⟩ := List.mem_filterMap.mp member
  obtain ⟨cve, there, found⟩ := List.mem_map.mp listed
  exact numeric cve there fixed (fixedFor_first numeric there found).1

theorem fixedOf_endsLast {fixed : JsString}
    (found : fixedOf (group.map fun cve => fixedFor cve.ranges cpe version) = some fixed) :
    EndsLast group cpe version fixed := by
  rw [fixedOf] at found
  split at found
  · cases found
  · next all =>
    obtain ⟨member, greatest⟩ := sortVersions_last (fixes_numeric numeric) found
    constructor
    · obtain ⟨_, listed, rfl⟩ := List.mem_filterMap.mp member
      obtain ⟨cve, there, first⟩ := List.mem_map.mp listed
      exact ⟨cve, there, fixedFor_first numeric there first⟩
    · intro cve there
      cases first : fixedFor cve.ranges cpe version with
      | none => exact absurd (List.mem_map.mpr ⟨cve, there, first⟩) all
      | some other =>
        refine ⟨other, (fixedFor_first numeric there first).1, greatest other ?_⟩
        exact List.mem_filterMap.mpr ⟨some other, List.mem_map.mpr ⟨cve, there, first⟩, rfl⟩

/-- Where there is such a release, one that compares as equal is reported. -/
theorem EndsLast.reported {release : JsString} (ends : EndsLast group cpe version release) :
    ∃ fixed, fixedOf (group.map fun cve => fixedFor cve.ranges cpe version) = some fixed ∧
      compareVersions release fixed = 0 := by
  obtain ⟨⟨cve, member, end_, least⟩, all⟩ := ends
  have found : ∀ cve ∈ group, ∃ first, fixedFor cve.ranges cpe version = some first ∧
      compareVersions first release ≤ 0 := by
    intro cve there
    obtain ⟨other, ended, by_then⟩ := all cve there
    cases first : fixedFor cve.ranges cpe version with
    | none => exact absurd (List.head?_eq_none_iff.mp first) (sortVersions_ne_nil (List.ne_nil_of_mem ended))
    | some earliest =>
      obtain ⟨among, earlier⟩ := fixedFor_first numeric there first
      exact ⟨earliest, rfl, compareVersions_trans coherent_numeric (numeric cve there _ among)
        (numeric cve there _ ended) (numeric _ member _ end_) (earlier other ended) by_then⟩
  have whole : none ∉ group.map fun cve => fixedFor cve.ranges cpe version := by
    intro missing
    obtain ⟨other, there, none_found⟩ := List.mem_map.mp missing
    obtain ⟨first, some_found, _⟩ := found other there
    rw [none_found] at some_found
    cases some_found
  obtain ⟨first, fixes, early⟩ := found cve member
  have listed : first ∈ (group.map fun cve => fixedFor cve.ranges cpe version).filterMap id :=
    List.mem_filterMap.mpr ⟨some first, List.mem_map.mpr ⟨cve, member, fixes⟩, rfl⟩
  rw [fixedOf, if_neg whole]
  cases last : (sortVersions ((group.map fun cve => fixedFor cve.ranges cpe version).filterMap id)).getLast? with
  | none => exact absurd (List.getLast?_eq_none_iff.mp last) (sortVersions_ne_nil (List.ne_nil_of_mem listed))
  | some fixed =>
    refine ⟨fixed, rfl, ?_⟩
    obtain ⟨among, greatest⟩ := sortVersions_last (fixes_numeric numeric) last
    obtain ⟨_, mapped, rfl⟩ := List.mem_filterMap.mp among
    obtain ⟨other, there, at_last⟩ := List.mem_map.mp mapped
    obtain ⟨_, same, below⟩ := found other there
    obtain rfl : fixed = _ := Option.some.inj (at_last.symm.trans same)
    have numeric_first := numeric cve member _ (fixedFor_first numeric member fixes).1
    refine compareVersions_antisymm ?_ below
    exact compareVersions_trans coherent_numeric (numeric cve member _ end_) numeric_first
      (fixes_numeric numeric _ among) (least first (fixedFor_first numeric member fixes).1) (greatest first listed)

end

/-- The fix is newer than what is installed, and no range of a CVE that was found takes it in. -/
def Fixes (cves : List NvdCve) (item : InventoryProduct) (cpe release : JsString) : Prop :=
  0 < compareVersions release item.version ∧
    ∀ cve ∈ cves, cve.affects cpe item.version = true → ∀ range ∈ cve.ranges, cpeRangeMatches range cpe release = false

/-- Where the CVEs have all ended, none of them begins again. -/
def EndsClear (cves : List NvdCve) (item : InventoryProduct) : Prop :=
  ∀ cpe ∈ productCpe item.product, ∀ release,
    EndsLast (cves.filter fun cve => cve.affects cpe item.version) cpe item.version release → Fixes cves item cpe release

section

variable {cves : List NvdCve} {item : InventoryProduct}

theorem Fixes.alike {cpe a b : JsString} (fixes : Fixes cves item cpe b) (equal : compareVersions a b = 0) :
    Fixes cves item cpe a := by
  have alike := compareVersions_alike equal
  refine ⟨alike ▸ fixes.1, ?_⟩
  intro cve member found range there
  have outside := fixes.2 cve member found range there
  rw [cpeRangeMatches] at outside ⊢
  rwa [alike]

theorem ends_numeric (numeric : NumericVersions cves item) {cpe : JsString} (named : cpe ∈ productCpe item.product) :
    ∀ cve ∈ cves, ∀ bound ∈ cve.ends cpe item.version, Numeric bound := by
  intro cve member bound ended
  obtain ⟨range, there, found⟩ := List.mem_filterMap.mp ended
  split at found
  · next holds =>
    rw [cpeRangeMatches] at holds
    split at holds
    · cases holds
    · next open_ =>
      have product : (cpe ++ js ":").isPrefixOf range.criteria = true := by
        by_contra other
        exact open_ (by simp [other])
      refine (numeric.2 cpe named cve member range there product).2 bound ?_
      simp [CpeRange.bounds, List.mem_filterMap, found]
  · cases found

/-- A product with CVEs has its finding. -/
theorem productFinding_some (localeCompare : JsString → JsString → ℤ) (kev : JsString → Option KevEntry)
    {cpe : JsString} (named : productCpe item.product = some cpe)
    (filled : groupSorted localeCompare (cves.filter fun cve => cve.affects cpe item.version) ≠ []) :
    ∃ draft, productFinding localeCompare cves kev item = some draft ∧ draft.fixedVersion =
      fixedOf ((groupSorted localeCompare (cves.filter fun cve => cve.affects cpe item.version)).map
        fun cve => fixedFor cve.ranges cpe item.version) := by
  simp only [productFinding, named, Option.bind_eq_bind, Option.bind_some]
  cases group : groupSorted localeCompare (cves.filter fun cve => cve.affects cpe item.version) with
  | nil => exact absurd group filled
  | cons first rest => exact ⟨_, rfl, rfl⟩

end

theorem productFinding_fixes (localeCompare : JsString → JsString → ℤ) (cves : List NvdCve)
    (kev : JsString → Option KevEntry) (item : InventoryProduct) (numeric : NumericVersions cves item) :
    (∀ draft, productFinding localeCompare cves kev item = some draft → ∀ fixed ∈ draft.fixedVersion,
      ∀ cpe ∈ productCpe item.product, Fixes cves item cpe fixed) ↔ EndsClear cves item := by
  cases named : productCpe item.product with
  | none => simp [productFinding, EndsClear, named]
  | some cpe =>
    have ends := ends_numeric numeric (Option.mem_def.mpr named)
    have same : ∀ cve, cve ∈ groupSorted localeCompare (cves.filter fun cve => cve.affects cpe item.version) ↔
        cve ∈ cves.filter fun cve => cve.affects cpe item.version := fun cve => List.mem_insertionSort _
    have numbers : ∀ cve ∈ groupSorted localeCompare (cves.filter fun cve => cve.affects cpe item.version),
        ∀ bound ∈ cve.ends cpe item.version, Numeric bound :=
      fun cve member => ends cve (List.mem_filter.mp ((same cve).mp member)).1
    constructor
    · intro fixing cpe' named' release last
      obtain rfl : cpe = cpe' := Option.some.inj (named.symm.trans named')
      have sorted : EndsLast (groupSorted localeCompare (cves.filter fun cve => cve.affects cpe item.version)) cpe
          item.version release := by
        simpa only [EndsLast, same] using last
      obtain ⟨fixed, reported, equal⟩ := sorted.reported numbers
      obtain ⟨⟨cve, member, _⟩, _⟩ := sorted
      obtain ⟨draft, found, fix⟩ := productFinding_some localeCompare kev named (List.ne_nil_of_mem member)
      exact (fixing draft found fixed (fix ▸ reported) cpe rfl).alike equal
    · intro clear draft found fixed reported cpe' named'
      obtain rfl : cpe = cpe' := Option.some.inj named'
      apply clear cpe named
      simp only [productFinding, named, Option.bind_eq_bind, Option.bind_some] at found
      obtain ⟨first, head, found⟩ := Option.bind_eq_some_iff.mp found
      cases found
      simpa only [EndsLast, same] using fixedOf_endsLast numbers reported

/-- The reported releases fix what they are said to fix exactly when no CVE begins again where all have ended. -/
theorem productFindings_fix (localeCompare : JsString → JsString → ℤ) (products : List InventoryProduct)
    (cves : List NvdCve) (kev : JsString → Option KevEntry) (numeric : ∀ item ∈ products, NumericVersions cves item) :
    (∀ draft ∈ productFindings localeCompare products cves kev, ∀ item ∈ products,
      productFinding localeCompare cves kev item = some draft → ∀ fixed ∈ draft.fixedVersion,
        ∀ cpe ∈ productCpe item.product, Fixes cves item cpe fixed) ↔ ∀ item ∈ products, EndsClear cves item := by
  constructor
  · intro fixing item member
    refine (productFinding_fixes localeCompare cves kev item (numeric item member)).mp ?_
    intro draft found
    exact fixing draft (List.mem_filterMap.mpr ⟨item, member, found⟩) item member found
  · intro clear draft _ item member
    exact (productFinding_fixes localeCompare cves kev item (numeric item member)).mpr (clear item member) draft

def samplePhp : InventoryProduct := ⟨.php, js "8.1.0", none⟩

/-- A range from one release up to another. -/
def sampleRange (start stop : String) : CpeRange where
  criteria := js "cpe:2.3:a:php:php:*:*"
  vulnerable := true
  versionStartIncluding := some (js start)
  versionStartExcluding := none
  versionEndIncluding := none
  versionEndExcluding := some (js stop)

def sampleCve (ranges : List CpeRange) : NvdCve := ⟨js "CVE-2026-1111", none, none, .high, ranges⟩

theorem productFindings_fix_php : (∀ item ∈ [samplePhp], NumericVersions [sampleCve [sampleRange "8.0.0" "8.1.5"]] item) ∧
    ∀ draft ∈ productFindings (fun _ _ => 0) [samplePhp] [sampleCve [sampleRange "8.0.0" "8.1.5"]] fun _ => none,
      ∀ item ∈ [samplePhp], productFinding (fun _ _ => 0) [sampleCve [sampleRange "8.0.0" "8.1.5"]] (fun _ => none) item = some draft →
        ∀ fixed ∈ draft.fixedVersion, ∀ cpe ∈ productCpe item.product,
          Fixes [sampleCve [sampleRange "8.0.0" "8.1.5"]] item cpe fixed := by
  have numeric : ∀ item ∈ [samplePhp], NumericVersions [sampleCve [sampleRange "8.0.0" "8.1.5"]] item := by
    unfold NumericVersions
    decide +kernel
  refine ⟨numeric, (productFindings_fix _ _ _ _ numeric).mpr ?_⟩
  intro item member cpe named release last
  obtain rfl := List.mem_singleton.mp member
  obtain rfl : js "cpe:2.3:a:php:php" = cpe := Option.some.inj named
  obtain ⟨⟨cve, there, ended, _⟩, _⟩ := last
  obtain rfl := List.mem_singleton.mp (List.mem_filter.mp there).1
  have listed : (sampleCve [sampleRange "8.0.0" "8.1.5"]).ends (js "cpe:2.3:a:php:php") samplePhp.version =
      [js "8.1.5"] := by decide +kernel
  rw [listed, List.mem_singleton] at ended
  subst ended
  unfold Fixes
  decide +kernel

/-- The second range of the CVE takes in the release at which the first one ends. -/
theorem overlapping_ranges : ¬ ∀ localeCompare products cves kev, (∀ item ∈ products, NumericVersions cves item) →
    ∀ draft ∈ productFindings localeCompare products cves kev, ∀ item ∈ products,
      productFinding localeCompare cves kev item = some draft → ∀ fixed ∈ draft.fixedVersion,
        ∀ cpe ∈ productCpe item.product, Fixes cves item cpe fixed := by
  intro claimed
  let cve := sampleCve [sampleRange "8.0.0" "8.1.5", sampleRange "8.1.3" "8.2.0"]
  have numeric : NumericVersions [cve] samplePhp := by
    unfold NumericVersions
    decide +kernel
  have clear := (productFinding_fixes (fun _ _ => 0) [cve] (fun _ => none) samplePhp numeric).mp fun draft found =>
    claimed _ [samplePhp] _ _ (by simpa using numeric) draft (List.mem_filterMap.mpr ⟨_, by simp, found⟩) _ (by simp) found
  have last : EndsLast ([cve].filter fun cve => cve.affects (js "cpe:2.3:a:php:php") (js "8.1.0"))
      (js "cpe:2.3:a:php:php") (js "8.1.0") (js "8.1.5") := by
    unfold EndsLast
    decide +kernel
  have fixes := clear (js "cpe:2.3:a:php:php") rfl (js "8.1.5") last
  have outside := fixes.2 cve (by simp) (by decide +kernel) (sampleRange "8.1.3" "8.2.0") (by simp [cve, sampleCve])
  exact absurd outside (by decide +kernel)

end SpaceApp.Api.Versions
