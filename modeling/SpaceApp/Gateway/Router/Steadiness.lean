import Mathlib.Data.List.Lex
import Mathlib.Data.Sum.Order
import Mathlib.Logic.Equiv.Basic
import SpaceApp.Foundation.Narrowing
import SpaceApp.Gateway.Router.Soundness

/-! A seeded conversation stays on its account: what selection picks for a seed does not depend on the
order of the accounts, nor on accounts it did not pick.
-/

set_option autoImplicit false

namespace SpaceApp.Gateway.Router

open SpaceApp.Foundation

abbrev KeyRank := Lex (Extended ⊕ List Nat)

def KeyPart.rank : KeyPart → KeyRank
  | .number value => toLex (.inl value)
  | .text value => toLex (.inr ((js value).map UInt16.toNat))

theorem KeyPart.less_iff (a b : KeyPart) : a.less b = true ↔ a.rank < b.rank := by
  cases a with
  | number a =>
    cases b with
    | number b =>
      rw [KeyPart.less, decide_eq_true_iff]
      exact Sum.Lex.inl_lt_inl_iff.symm
    | text b => exact iff_of_true rfl (Sum.Lex.inl_lt_inr a _)
  | text a =>
    cases b with
    | number b => exact iff_of_false (by simp [KeyPart.less]) Sum.Lex.not_inr_lt_inl
    | text b =>
      rw [KeyPart.less, textLess, unitsLess_iff]
      exact Sum.Lex.inr_lt_inr_iff.symm

theorem KeyPart.rank_injective {a b : KeyPart} (same : a.rank = b.rank) : a = b := by
  cases a with
  | number a =>
    cases b with
    | number b => rw [Sum.inl.inj (toLex.injective same)]
    | text b => cases toLex.injective same
  | text a =>
    cases b with
    | number b => cases toLex.injective same
    | text b =>
      have units := Sum.inr.inj (toLex.injective same)
      have toNat_injective : Function.Injective UInt16.toNat := fun _ _ equal => UInt16.toNat_inj.mp equal
      rw [js_injective (toNat_injective.list_map units)]

theorem compareKeys_lt_iff (a b : SortKey) : compareKeys a b = .lt ↔ a.map KeyPart.rank < b.map KeyPart.rank := by
  induction a generalizing b with
  | nil => cases b <;> simp [compareKeys]
  | cons x a ih =>
    cases b with
    | nil => simp [compareKeys]
    | cons y b =>
      rw [compareKeys, List.map_cons, List.map_cons, List.cons_lt_cons_iff]
      by_cases same : x = y
      · subst same
        simp [ih]
      · have differ : x.rank ≠ y.rank := fun equal => same (KeyPart.rank_injective equal)
        rw [if_neg same]
        by_cases less : x.less y = true
        · simp [less, (KeyPart.less_iff x y).mp less]
        · have notLess : ¬x.rank < y.rank := fun lower => less ((KeyPart.less_iff x y).mpr lower)
          simp [less, notLess, differ]

theorem compareKeys_eq_iff (a b : SortKey) : compareKeys a b = .eq ↔ a = b := by
  induction a generalizing b with
  | nil => cases b <;> simp [compareKeys]
  | cons x a ih =>
    cases b with
    | nil => simp [compareKeys]
    | cons y b =>
      rw [compareKeys]
      by_cases same : x = y
      · subst same
        simp [ih]
      · rw [if_neg same]
        split <;> simp [same]

theorem rank_injective {a b : SortKey} (same : a.map KeyPart.rank = b.map KeyPart.rank) : a = b :=
  List.map_injective_iff.mpr (fun _ _ equal => KeyPart.rank_injective equal) same

theorem minBy_least {α : Type} (key : α → SortKey) {items : List α} {found : α} (picked : minBy key items = some found) :
    ∀ item ∈ items, (key found).map KeyPart.rank ≤ (key item).map KeyPart.rank := by
  apply firstLeast_le (fun item => (key item).map KeyPart.rank) _ picked
  intro a b
  rw [decide_eq_true_iff]
  exact compareKeys_lt_iff _ _

theorem minBy_chooses {α : Type} (key : α → SortKey) : Chooses (minBy key) :=
  fun _ _ picked => firstLeast_mem picked

/-- With a key of its own for every item, the least one is the same in every smaller pool. -/
theorem minBy_steady {α : Type} {all : List α} (key : α → SortKey)
    (distinct : ∀ a ∈ all, ∀ b ∈ all, key a = key b → a = b) : Steady all (minBy key) := by
  intro pool smaller item within small picked member
  have some_ : smaller ≠ [] := List.ne_nil_of_mem member
  cases other : minBy key smaller with
  | none => exact absurd (firstLeast_eq_none.mp other) some_
  | some found =>
    have foundIn := firstLeast_mem other
    have same : key found = key item :=
      rank_injective (le_antisymm (minBy_least key other item member) (minBy_least key picked found (small foundIn)))
    rw [distinct found (within (small foundIn)) item (within (small member)) same]

section

variable {platform : Platform} {all : List AccountState}

theorem minBy_id_steady (distinct : (all.map (·.accountId)).Nodup) (before : AccountState → SortKey)
    {key : AccountState → SortKey} (ends : ∀ state, key state = before state ++ [.text state.accountId]) :
    Steady all (minBy key) := by
  apply minBy_steady
  intro a inA b inB same
  rw [ends, ends] at same
  have ids := (List.append_inj' same rfl).2
  simp only [List.cons.injEq, KeyPart.text.injEq, and_true] at ids
  exact List.inj_on_of_nodup_map distinct inA inB ids

theorem seededAccount_steady (injective : Function.Injective platform.sha256) (distinct : (all.map (·.accountId)).Nodup)
    (seed : String) : Steady all fun pool => seededAccount platform pool seed := by
  apply minBy_steady
  intro a inA b inB same
  simp only [List.cons.injEq, KeyPart.text.injEq, and_true] at same
  have texts := injective same
  have ids : a.accountId = b.accountId := by
    have lists := congrArg String.toList texts
    apply String.toList_injective
    simpa using lists
  exact List.inj_on_of_nodup_map distinct inA inB ids

theorem seededAccount_chooses (seed : String) : Chooses fun pool => seededAccount platform pool seed :=
  minBy_chooses _

theorem leastCandidates_narrows (value : AccountState → ℚ) : Narrows all (leastCandidates value) :=
  Narrows.least value

theorem lowestPlannerCost_narrows (costs : RoutingCostsByAccount) :
    Narrows all fun pool => lowestPlannerCostCandidates pool costs := by
  unfold lowestPlannerCostCandidates
  by_cases none_ : costs = []
  · simp only [none_, if_true]
    exact Narrows.id
  · simp only [none_, if_false]
    exact leastCandidates_narrows _

theorem preferEarlierReset_narrows (prefer : Bool) (current : ℚ) (window : ResetPreferenceWindow) :
    Narrows all fun pool => if prefer then preferEarlierResetCandidates pool current window else pool := by
  cases prefer with
  | true => exact leastCandidates_narrows _
  | false => exact Narrows.id

def leastUsedCandidates (available : List AccountState) : List AccountState :=
  available.filter fun state => available.all fun other =>
    decide (((usageSortKey state).take 2).map KeyPart.rank ≤ ((usageSortKey other).take 2).map KeyPart.rank)

theorem seededLeastUsed_eq (available : List AccountState) (seed : String) :
    seededLeastUsed platform available seed = seededAccount platform (leastUsedCandidates available) seed := by
  unfold seededLeastUsed leastUsedCandidates
  dsimp only
  cases picked : minBy (fun state => (usageSortKey state).take 2) available with
  | none =>
    obtain rfl := firstLeast_eq_none.mp picked
    rfl
  | some least =>
    have lowest := minBy_least _ picked
    have member := firstLeast_mem picked
    dsimp only
    congr 1
    apply List.filter_congr
    intro state among
    rw [decide_eq_decide.mpr (compareKeys_eq_iff _ _), eq_comm, Bool.eq_iff_iff, List.all_eq_true, decide_eq_true_iff]
    constructor
    · intro lower
      have upper := lower least member
      rw [decide_eq_true_iff] at upper
      exact rank_injective (le_antisymm upper (lowest state among))
    · intro same other inPool
      rw [decide_eq_true_iff, same]
      exact lowest other inPool

theorem seededLeastUsed_steady (injective : Function.Injective platform.sha256)
    (distinct : (all.map (·.accountId)).Nodup) (seed : String) :
    Steady all fun pool => seededLeastUsed platform pool seed := by
  simp only [seededLeastUsed_eq]
  exact (seededAccount_steady injective distinct seed).narrowed (seededAccount_chooses seed) (Narrows.least _)

theorem remainingSecondaryCredits_nonneg (state : AccountState) : 0 ≤ remainingSecondaryCredits platform state := by
  unfold remainingSecondaryCredits
  split
  · exact le_max_left _ _
  · split
    · exact le_refl _
    · exact le_max_left _ _

theorem selectionWeightMultiplier_nonneg (state : AccountState) : 0 ≤ selectionWeightMultiplier state := by
  unfold selectionWeightMultiplier
  dsimp only
  split
  · exact zero_le_one
  · next notNegative => exact le_min (not_lt.mp notNegative) zero_le_one

theorem capacityWeight_nonneg (state : AccountState) : 0 ≤ capacityWeight platform state :=
  mul_nonneg (remainingSecondaryCredits_nonneg state) (selectionWeightMultiplier_nonneg state)

theorem sum_nonpos_iff (pool : List AccountState) : (pool.map (capacityWeight platform)).sum ≤ 0 ↔
    ∀ state ∈ pool, ¬0 < capacityWeight platform state := by
  constructor
  · intro low state among positive
    have bound := List.single_le_sum (l := pool.map (capacityWeight platform))
      (by simpa using fun state _ => capacityWeight_nonneg state) _ (List.mem_map_of_mem among)
    exact absurd (bound.trans low) (not_le.mpr positive)
  · intro none_
    by_contra high
    obtain ⟨state, among, positive⟩ := exists_pos_of_sum_pos (not_le.mp high)
    exact none_ state among positive

theorem selectCapacityWeighted_steady (injective : Function.Injective platform.sha256)
    (distinct : (all.map (·.accountId)).Nodup) (random : ℚ) (seed : String) :
    Steady all fun pool => selectCapacityWeighted platform pool random (some seed) := by
  intro pool smaller item within small picked member
  unfold selectCapacityWeighted leastUsed at picked ⊢
  dsimp only at picked ⊢
  by_cases low : (pool.map (capacityWeight platform)).sum ≤ 0
  · have lowSmaller : (smaller.map (capacityWeight platform)).sum ≤ 0 := by
      rw [sum_nonpos_iff] at low ⊢
      exact fun state among => low state (small among)
    rw [if_pos low] at picked
    rw [if_pos lowSmaller]
    exact seededLeastUsed_steady injective distinct seed pool smaller item within small picked member
  · rw [if_neg low] at picked
    have chosen := List.mem_filter.mp (seededAccount_chooses seed _ _ picked)
    have highSmaller : ¬(smaller.map (capacityWeight platform)).sum ≤ 0 := by
      rw [sum_nonpos_iff]
      intro none_
      exact none_ item member (by simpa using chosen.2)
    rw [if_neg highSmaller]
    exact (seededAccount_steady injective distinct seed).narrowed (seededAccount_chooses seed) (Narrows.filter _)
      pool smaller item within small picked member

theorem selectCapacityWeighted_chooses (random : ℚ) (seed : String) :
    Chooses fun pool => selectCapacityWeighted platform pool random (some seed) := by
  intro pool item picked
  have some_ : pool ≠ [] := by
    rintro rfl
    cases picked
  obtain ⟨account, member, same⟩ := selectCapacityWeighted_picks platform random (some seed) some_
  dsimp only at picked
  rw [same] at picked
  cases picked
  exact member

theorem chooseStrategy_steady (injective : Function.Injective platform.sha256)
    (distinct : (all.map (·.accountId)).Nodup) {options : SelectAccountOptions} {seed : String}
    (seeded : options.selectionSeed = some seed) (strategy : options.routingStrategy ≠ .relativeAvailability) :
    Steady all (chooseStrategy platform options) := by
  have earlier : Narrows all fun pool => if options.preferEarlierReset then
      preferEarlierResetCandidates pool options.now options.preferEarlierResetWindow else pool :=
    preferEarlierReset_narrows options.preferEarlierReset options.now options.preferEarlierResetWindow
  have costs : Narrows all fun pool => lowestPlannerCostCandidates pool options.routingCosts :=
    lowestPlannerCost_narrows options.routingCosts
  have hash := seededAccount_steady injective distinct seed
  have hashed : Chooses fun pool => seededAccount platform pool seed := seededAccount_chooses seed
  unfold chooseStrategy
  simp only [seeded]
  cases named : options.routingStrategy with
  | roundRobin => exact hash.narrowed hashed costs
  | capacityWeighted =>
    by_cases probe : options.deterministicProbe = true
    · simp only [probe, if_true]
      refine Steady.narrowed ?_ (minBy_chooses _) earlier
      exact minBy_id_steady distinct (fun state => num (plannerCost state options.routingCosts) ::
        num (-remainingSecondaryCredits platform state) :: (usageSortKey state).take 3) fun _ => rfl
    · simp only [probe, if_false, Bool.false_eq_true]
      have weighted : Steady all fun pool => selectCapacityWeighted platform pool options.random (some seed) :=
        selectCapacityWeighted_steady injective distinct options.random seed
      exact weighted.narrowed (selectCapacityWeighted_chooses options.random seed) (costs.comp earlier)
  | relativeAvailability => exact absurd named strategy
  | fillFirst =>
    refine Steady.narrowed ?_ (minBy_chooses _) earlier
    exact minBy_id_steady distinct (fun state => [num (-state.usedPercent.getD 0),
      num (-state.secondaryUsedPercent.getD 0)]) fun _ => rfl
  | usageWeighted => exact hash.narrowed hashed (costs.comp earlier)
  | sequentialDrain => exact hash.narrowed hashed (costs.comp earlier)
  | resetDrain => exact hash.narrowed hashed (costs.comp earlier)
  | singleAccount => exact hash.narrowed hashed (costs.comp earlier)

theorem chooseStrategy_chooses {options : SelectAccountOptions} {seed : String}
    (seeded : options.selectionSeed = some seed) (strategy : options.routingStrategy ≠ .relativeAvailability) :
    Chooses (chooseStrategy platform options) := by
  have nil : chooseStrategy platform options [] = none := by
    have earlier : (if options.preferEarlierReset then
        preferEarlierResetCandidates [] options.now options.preferEarlierResetWindow else []) = [] := by
      split <;> rfl
    have costs : lowestPlannerCostCandidates [] options.routingCosts = [] := by
      unfold lowestPlannerCostCandidates
      split <;> rfl
    unfold chooseStrategy
    simp only [seeded, earlier, costs]
    cases named : options.routingStrategy with
    | relativeAvailability => exact absurd named strategy
    | capacityWeighted =>
      dsimp only
      split <;> rfl
    | _ => rfl
  intro pool item picked
  have some_ : pool ≠ [] := by
    rintro rfl
    rw [nil] at picked
    cases picked
  obtain ⟨account, member, same⟩ := chooseStrategy_picks platform options some_
  rw [same] at picked
  cases picked
  exact member

theorem tiers_narrow (tiers : List String) {last : List AccountState → List AccountState} (narrows : Narrows all last) :
    Narrows all fun pool =>
      match tiers.find? fun tier => pool.any fun state => normalizePlanPriorityType platform state.planType = tier with
      | some tier => pool.filter fun state => normalizePlanPriorityType platform state.planType = tier
      | none => last pool := by
  induction tiers with
  | nil => exact narrows
  | cons tier tiers ih =>
    have step := Narrows.prefer
      (fun state : AccountState => decide (normalizePlanPriorityType platform state.planType = tier)) ih
    convert step using 2 with pool
    have empty_iff : (pool.filter fun state => decide (normalizePlanPriorityType platform state.planType = tier)) =
        [] ↔ ¬(pool.any fun state => decide (normalizePlanPriorityType platform state.planType = tier)) = true := by
      simp [List.filter_eq_nil_iff]
    by_cases here : (pool.any fun state => decide (normalizePlanPriorityType platform state.planType = tier)) = true
    · rw [if_neg (fun empty => empty_iff.mp empty here), List.find?_cons, here]
    · rw [if_pos (empty_iff.mpr here), List.find?_cons, eq_false_of_ne_true here]

theorem selectPlanTier_narrows (planPriority : List String) :
    Narrows all fun pool => selectPlanTier platform pool planPriority := by
  unfold selectPlanTier
  by_cases none_ : (planPriority.map fun value => normalizePlanPriorityType platform (some value)) = []
  · simp only [none_, if_true]
    exact Narrows.id
  · simp only [none_, if_false]
    apply tiers_narrow
    have step := Narrows.prefer (fun state : AccountState =>
      !(planPriority.map fun value => normalizePlanPriorityType platform (some value)).contains
        (normalizePlanPriorityType platform state.planType)) (Narrows.id : Narrows all _)
    convert step using 2 with pool
    by_cases empty : (pool.filter fun state =>
        !(planPriority.map fun value => normalizePlanPriorityType platform (some value)).contains
          (normalizePlanPriorityType platform state.planType)) = []
    · rw [if_neg (not_not.mpr empty), if_pos empty]
    · rw [if_pos empty, if_neg empty]

theorem firstNonempty_narrows (first second third : AccountState → Bool)
    {last : List AccountState → List AccountState} (narrows : Narrows all last) :
    Narrows all fun pool => firstNonempty [pool.filter first, pool.filter second, pool.filter third] (last pool) := by
  have step := ((narrows.prefer third).prefer second).prefer first
  convert step using 2 with pool
  unfold firstNonempty
  by_cases one : pool.filter first = [] <;> by_cases two : pool.filter second = [] <;>
    by_cases three : pool.filter third = [] <;> simp [one, two, three]

theorem effectivePool_narrows : Narrows all fun pool =>
    effectivePool (healthTier pool HEALTH_TIER_HEALTHY) (healthTier pool HEALTH_TIER_PROBING)
      (healthTier pool HEALTH_TIER_DRAINING) pool none := by
  have health : Narrows all fun pool => firstNonempty [healthTier pool HEALTH_TIER_HEALTHY,
      healthTier pool HEALTH_TIER_PROBING, healthTier pool HEALTH_TIER_DRAINING] pool :=
    firstNonempty_narrows _ _ _ Narrows.id
  exact (firstNonempty_narrows (fun state => decide (routingPolicy state = .burnFirst))
    (fun state => decide (routingPolicy state = .normal))
    (fun state => decide (routingPolicy state = .preserve)) Narrows.id).comp health

section

variable {options : SelectAccountOptions}

theorem chooseAccount_steady (injective : Function.Injective platform.sha256) (distinct : (all.map (·.accountId)).Nodup)
    {seed : String} (seeded : options.selectionSeed = some seed) (recovery : options.recoveryProbeOnly = false)
    (strategy : options.routingStrategy ≠ .relativeAvailability) : Steady all (chooseAccount platform options) := by
  have noProbe : ∀ pool, dueProbe options pool = none := by
    intro pool
    rw [dueProbe, if_neg]
    rintro ⟨-, unseeded⟩
    rw [seeded] at unseeded
    cases unseeded
  unfold chooseAccount
  by_cases tiered : options.planPriority ≠ [] ∧ ¬options.weeklyPace = true
  · simp only [if_pos tiered]
    refine Steady.narrowed ?_ (minBy_chooses _) (selectPlanTier_narrows options.planPriority)
    exact minBy_id_steady distinct (fun state => [num (state.usedPercent.getD 0),
      num (state.secondaryUsedPercent.getD (state.usedPercent.getD 0))]) fun _ => rfl
  simp only [if_neg tiered]
  by_cases single : options.routingStrategy = .singleAccount
  · simp only [if_pos single]
    exact minBy_id_steady distinct (fun _ => []) fun _ => rfl
  simp only [if_neg single]
  by_cases sequential : options.routingStrategy = .sequentialDrain
  · simp only [if_pos sequential]
    exact minBy_id_steady distinct (fun state => [num (configuredCapacityCredits platform state),
      .text (stableTieBreaker platform state.accountId)]) fun _ => rfl
  simp only [if_neg sequential]
  by_cases drains : options.routingStrategy = .resetDrain
  · simp only [if_pos drains]
    exact minBy_id_steady distinct (fun state => (resetDrainSortKey platform state options.now).take 5) fun _ => rfl
  simp only [if_neg drains, noProbe, recovery, Bool.false_eq_true, false_and, if_false]
  by_cases weekly : options.weeklyPace = true
  · simp only [if_pos weekly]
    refine Steady.narrowed ?_ (minBy_chooses _) effectivePool_narrows
    exact minBy_id_steady distinct (fun state => [num (round (weeklyPacePoints state options.now)),
      num ((options.planPriority.map fun value => normalizePlanPriorityType platform (some value)).idxOf
        (normalizePlanPriorityType platform state.planType)), num (state.usedPercent.getD 0)]) fun _ => rfl
  simp only [if_neg weekly]
  exact (chooseStrategy_steady injective distinct seeded strategy).narrowed
    (chooseStrategy_chooses seeded strategy) effectivePool_narrows

theorem serve_foreground (foreground : options.trafficClass = .foreground) (pool : List AccountState) :
    (serve platform options pool).account = chooseAccount platform options pool := by
  have free : opportunistic options pool = .ok pool := by
    unfold opportunistic
    rw [foreground, if_neg (by simp)]
  simp only [serve, free]

theorem selectAccount_available (foreground : options.trafficClass = .foreground) {states : List AccountState}
    (some_ : admitted platform options .available states ≠ []) : (selectAccount platform states options).1.account =
      chooseAccount platform options (admitted platform options .available states) := by
  rw [← serve_foreground foreground]
  simp [selectAccount, some_]

end

theorem admitted_subset (options : SelectAccountOptions) (admission : Admission)
    {smaller states : List AccountState} (within : smaller ⊆ states) :
    admitted platform options admission smaller ⊆ admitted platform options admission states := by
  intro account member
  rw [mem_admitted] at member ⊢
  obtain ⟨state, among, same⟩ := member
  exact ⟨state, within among, same⟩

end

section

variable {platform : Platform} (injective : Function.Injective platform.sha256)
  {options : SelectAccountOptions} {seed : String} (seeded : options.selectionSeed = some seed)
  (foreground : options.trafficClass = .foreground) (recovery : options.recoveryProbeOnly = false)
  (strategy : options.routingStrategy ≠ .relativeAvailability) {states : List AccountState}
  (distinct : (states.map (·.accountId)).Nodup) {account : AccountState}
  (picked : (selectAccount platform states options).1.account = some account)
  (usable : ∃ state ∈ states, state.accountId = account.accountId ∧ Usable platform options state)

include injective seeded foreground recovery strategy distinct picked usable

theorem selectAccount_part {smaller : List AccountState} (within : smaller ⊆ states)
    (still : ∀ state ∈ states, state.accountId = account.accountId → state ∈ smaller) :
    (selectAccount platform smaller options).1.account = some account := by
  have some_ : admitted platform options .available states ≠ [] := by
    obtain ⟨state, member, -, free⟩ := usable
    exact (admitted_available_ne_nil platform options states).mpr ⟨state, member, free⟩
  rw [selectAccount_available foreground some_] at picked
  obtain ⟨chosen, inPool, same⟩ := chooseAccount_picks platform options recovery some_
  rw [same] at picked
  cases picked
  have inSmaller : account ∈ admitted platform options .available smaller := by
    rw [mem_admitted] at inPool ⊢
    obtain ⟨state, member, free, rfl⟩ := inPool
    exact ⟨state, still state member (admit_accountId platform options state).symm, free, rfl⟩
  rw [selectAccount_available foreground (List.ne_nil_of_mem inSmaller)]
  exact chooseAccount_steady injective (admitted_accountIds_nodup platform options states distinct .available) seeded
    recovery strategy _ _ account (List.Subset.refl _) (admitted_subset options .available within) same inSmaller

/-- The order of the accounts and the ones that were not picked make no difference. -/
theorem selectAccount_stays :
    (∀ permuted : List AccountState, permuted.Perm states →
      (selectAccount platform permuted options).1.account = some account) ∧
    ∀ removed : String → Bool, removed account.accountId = false →
      (selectAccount platform (states.filter fun state => !removed state.accountId) options).1.account =
        some account := by
  constructor
  · intro permuted permutes
    apply selectAccount_part injective seeded foreground recovery strategy distinct picked usable permutes.subset
    intro state member _
    exact permutes.mem_iff.mpr member
  · intro removed stays
    apply selectAccount_part injective seeded foreground recovery strategy distinct picked usable
      (List.filter_subset_self _)
    intro state member same
    rw [List.mem_filter, same, stays]
    exact ⟨member, rfl⟩

end

/-- The digests of the two texts hashed below; no other text is hashed there. -/
def seededPlatform : Platform where
  pow base exponent := base ^ exponent.num
  sha256 := (Equiv.swap "conversation\x00a" "dc44f701c7ec7ccce31d50e7cc15caddee8beae35081939f4a79de4024299a84").trans
    (Equiv.swap "conversation\x00b" "30cd1ece88062c15ba1aa59b003fd1eb25c80804ad3c068d76c9375c597cc651")
  toLowerCase text := text
  replicaSalt := "replica"

def seededOptions : SelectAccountOptions where
  now := 1000
  routingStrategy := .roundRobin
  selectionSeed := some "conversation"

theorem selectAccount_stays_seeded :
    (selectAccount seededPlatform [{ accountId := "a", status := .active }, { accountId := "b", status := .active },
        { accountId := "c", status := .paused }] seededOptions).1.account =
      some { accountId := "b", status := .active } ∧
    (selectAccount seededPlatform ([{ accountId := "b", status := .active }, { accountId := "c", status := .paused },
        { accountId := "a", status := .active }].filter fun state => !(state.accountId == "a")) seededOptions).1.account =
      some { accountId := "b", status := .active } := by
  have picked : (selectAccount seededPlatform [{ accountId := "b", status := .active },
      { accountId := "c", status := .paused }, { accountId := "a", status := .active }] seededOptions).1.account =
      some { accountId := "b", status := .active } := by
    decide +kernel
  have stays := selectAccount_stays (Equiv.injective _ : Function.Injective seededPlatform.sha256)
    (rfl : seededOptions.selectionSeed = some "conversation") rfl rfl (by decide) (by decide) picked
    ⟨{ accountId := "b", status := .active }, List.mem_cons_self .., rfl, by
      rw [← admit_available]
      decide +kernel⟩
  exact ⟨stays.1 _ (by decide), stays.2 (· == "a") rfl⟩

end SpaceApp.Gateway.Router
