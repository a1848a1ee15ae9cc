import SpaceApp.Gateway.Router.Selection

/-! When `selectAccount` finds an account and which one: every narrowing of the
pool keeps an account of a pool that has one, so the answer depends only on the
pass over the accounts.
-/

set_option autoImplicit false

namespace SpaceApp.Gateway.Router

open SpaceApp.Foundation

def Picks (pool : List AccountState) (choice : Option AccountState) : Prop :=
  ∃ account ∈ pool, choice = some account

theorem Picks.of_subset {pool larger : List AccountState} {choice : Option AccountState}
    (picks : Picks pool choice) (within : ∀ account ∈ pool, account ∈ larger) : Picks larger choice := by
  obtain ⟨account, member, same⟩ := picks
  exact ⟨account, within account member, same⟩

theorem Picks.of_filter {pool : List AccountState} {kept : AccountState → Bool}
    {choice : Option AccountState} (picks : Picks (pool.filter kept) choice) : Picks pool choice :=
  picks.of_subset fun _ member => List.mem_of_mem_filter member

theorem minBy_picks (key : AccountState → SortKey) {pool : List AccountState} (some_ : pool ≠ []) :
    Picks pool (minBy key pool) := by
  cases found : minBy key pool with
  | none => exact absurd (firstLeast_eq_none.mp found) some_
  | some account => exact ⟨account, firstLeast_mem found, rfl⟩

@[simp] theorem compareKeys_self (key : SortKey) : compareKeys key key = .eq := by
  induction key with
  | nil => rfl
  | cons part rest ih => simp [compareKeys, ih]

theorem seededAccount_picks (platform : Platform) {pool : List AccountState} (seed : String)
    (some_ : pool ≠ []) : Picks pool (seededAccount platform pool seed) :=
  minBy_picks _ some_

theorem seededLeastUsed_picks (platform : Platform) {pool : List AccountState} (seed : String)
    (some_ : pool ≠ []) : Picks pool (seededLeastUsed platform pool seed) := by
  obtain ⟨least, member, found⟩ := minBy_picks (fun state => (usageSortKey state).take 2) some_
  simp only [seededLeastUsed, found]
  apply Picks.of_filter
  apply seededAccount_picks
  exact List.ne_nil_of_mem (List.mem_filter.mpr ⟨member, by simp⟩)

theorem leastUsed_picks (platform : Platform) {pool : List AccountState} (seed : Option String)
    (some_ : pool ≠ []) : Picks pool (leastUsed platform pool seed) := by
  cases seed with
  | none => exact minBy_picks _ some_
  | some seed => exact seededLeastUsed_picks platform seed some_

theorem weightedChoice_picks (items : List (AccountState × ℚ)) (random : ℚ) (some_ : items ≠ []) :
    Picks (items.map Prod.fst) (weightedChoice items random) := by
  unfold weightedChoice
  cases found : weightedWalk items (random * (items.map Prod.snd).sum) with
  | none => exact absurd (weightedWalk_eq_none.mp found) some_
  | some account =>
    obtain ⟨weight, member⟩ := weightedWalk_mem found
    exact ⟨account, List.mem_map.mpr ⟨(account, weight), member, rfl⟩, rfl⟩

theorem leastCandidates_ne_nil (value : AccountState → ℚ) {pool : List AccountState}
    (some_ : pool ≠ []) : leastCandidates value pool ≠ [] := by
  cases found : firstLeast (fun a b => decide (value a < value b)) pool with
  | none => exact absurd (firstLeast_eq_none.mp found) some_
  | some account =>
    have least := firstLeast_le value (fun a b => by simp) found
    refine List.ne_nil_of_mem (List.mem_filter.mpr ⟨firstLeast_mem found, ?_⟩)
    simpa using least

theorem preferEarlierReset_ne_nil (current : ℚ) (window : ResetPreferenceWindow) {pool : List AccountState}
    (some_ : pool ≠ []) : preferEarlierResetCandidates pool current window ≠ [] :=
  leastCandidates_ne_nil _ some_

theorem lowestPlannerCost_ne_nil (costs : RoutingCostsByAccount) {pool : List AccountState}
    (some_ : pool ≠ []) : lowestPlannerCostCandidates pool costs ≠ [] := by
  unfold lowestPlannerCostCandidates
  split
  · exact some_
  · exact leastCandidates_ne_nil _ some_

theorem lowestPlannerCost_subset (costs : RoutingCostsByAccount) (pool : List AccountState) :
    ∀ account ∈ lowestPlannerCostCandidates pool costs, account ∈ pool := by
  intro account member
  unfold lowestPlannerCostCandidates at member
  split at member
  · exact member
  · exact List.mem_of_mem_filter member

theorem selectCapacityWeighted_picks (platform : Platform) {pool : List AccountState} (random : ℚ)
    (seed : Option String) (some_ : pool ≠ []) : Picks pool (selectCapacityWeighted platform pool random seed) := by
  simp only [selectCapacityWeighted]
  split
  · exact leastUsed_picks platform seed some_
  · next positive =>
    cases seed with
    | none =>
      have picks := weightedChoice_picks
        (pool.map fun state => (state, capacityWeight platform state)) random (by simpa using some_)
      simpa [List.map_map, Function.comp_def] using picks
    | some seed =>
      obtain ⟨account, member, weighs⟩ := exists_pos_of_sum_pos (not_le.mp positive)
      apply Picks.of_filter
      apply seededAccount_picks
      exact List.ne_nil_of_mem (List.mem_filter.mpr ⟨member, by simpa using weighs⟩)

theorem Scored.picks_of_subset {weighted : List Scored} {pool : List AccountState}
    (within : ∀ item ∈ weighted, item.state ∈ pool) {choice : Option AccountState}
    (picks : Picks (weighted.map (·.state)) choice) : Picks pool choice := by
  apply picks.of_subset
  intro account member
  obtain ⟨item, itemMember, same⟩ := List.mem_map.mp member
  exact same ▸ within item itemMember

theorem relativeCandidates_within {platform : Platform} {pool : List AccountState} {current best power : ℚ}
    {item : Scored} (member : item ∈ relativeCandidates platform pool current best power) : item.state ∈ pool := by
  obtain ⟨state, stateMember, same⟩ := List.mem_map.mp (List.mem_of_mem_filter member)
  exact same ▸ stateMember

theorem rankRelative_subset {platform : Platform} {topK : ℚ} {seed : Option String} {weighted : List Scored}
    {item : Scored} (member : item ∈ rankRelative platform topK seed weighted) : item ∈ weighted := by
  cases seed with
  | none => exact List.mem_mergeSort.mp (List.mem_of_mem_take member)
  | some seed => exact List.mem_mergeSort.mp member

theorem selectRelativeAvailability_picks (platform : Platform) {pool : List AccountState} (current power topK : ℚ)
    (deterministicProbe : Bool) (seed : Option String) (random : ℚ) (some_ : pool ≠ []) :
    Picks pool (selectRelativeAvailability platform pool current power topK deterministicProbe seed random) := by
  simp only [selectRelativeAvailability]
  split
  · exact leastUsed_picks platform seed some_
  split
  · exact leastUsed_picks platform seed some_
  next first rest ranked =>
  have within : ∀ item ∈ first :: rest, item.state ∈ pool := fun item member =>
    relativeCandidates_within (rankRelative_subset (ranked ▸ member))
  split
  · exact ⟨first.state, within first List.mem_cons_self, rfl⟩
  split
  · exact leastUsed_picks platform seed some_
  next positive =>
  cases seed with
  | none =>
    apply Scored.picks_of_subset within
    have picks := weightedChoice_picks
      ((first :: rest).map fun item => (item.state, item.finalWeight)) random (by simp)
    simpa only [List.map_map, Function.comp_def] using picks
  | some seed =>
    obtain ⟨item, member, weighs⟩ := exists_pos_of_sum_pos (not_le.mp positive)
    have kept : item ∈ (first :: rest).filter fun item => 0 < item.finalWeight :=
      List.mem_filter.mpr ⟨member, by simpa using weighs⟩
    apply Scored.picks_of_subset fun other member => within other (List.mem_of_mem_filter member)
    apply seededAccount_picks
    exact List.ne_nil_of_mem (List.mem_map_of_mem kept)

theorem selectPlanTier_subset (platform : Platform) (pool : List AccountState) (planPriority : List String) :
    ∀ account ∈ selectPlanTier platform pool planPriority, account ∈ pool := by
  intro account member
  unfold selectPlanTier at member
  simp only at member
  split at member
  · exact member
  · split at member
    · exact List.mem_of_mem_filter member
    · split at member
      · exact List.mem_of_mem_filter member
      · exact member

theorem selectPlanTier_ne_nil (platform : Platform) {pool : List AccountState} (planPriority : List String)
    (some_ : pool ≠ []) : selectPlanTier platform pool planPriority ≠ [] := by
  unfold selectPlanTier
  simp only
  split
  · exact some_
  · split
    · next tier found =>
      have held := List.find?_some found
      obtain ⟨account, member, same⟩ := List.any_eq_true.mp held
      exact List.ne_nil_of_mem (List.mem_filter.mpr ⟨member, same⟩)
    · split
      · next unranked => exact unranked
      · exact some_

theorem firstNonempty_ne_nil {pools : List (List AccountState)} {otherwise : List AccountState}
    (some_ : otherwise ≠ []) : firstNonempty pools otherwise ≠ [] := by
  unfold firstNonempty
  cases found : pools.find? (· ≠ []) with
  | none => exact some_
  | some pool => simpa using List.find?_some found

theorem firstNonempty_subset {pools : List (List AccountState)} {otherwise larger : List AccountState}
    (within : ∀ pool ∈ otherwise :: pools, ∀ account ∈ pool, account ∈ larger) :
    ∀ account ∈ firstNonempty pools otherwise, account ∈ larger := by
  unfold firstNonempty
  cases found : pools.find? (· ≠ []) with
  | none => exact within otherwise List.mem_cons_self
  | some pool => exact within pool (List.mem_cons_of_mem _ (List.mem_of_find?_eq_some found))

theorem effectivePool_ne_nil (healthy probing draining : List AccountState) {available : List AccountState}
    (dueProbe : Option AccountState) (some_ : available ≠ []) :
    effectivePool healthy probing draining available dueProbe ≠ [] := by
  unfold effectivePool
  apply firstNonempty_ne_nil
  cases dueProbe with
  | none => exact firstNonempty_ne_nil some_
  | some probe => exact List.cons_ne_nil _ _

theorem effectivePool_subset {healthy probing draining available : List AccountState} {dueProbe : Option AccountState}
    (within : ∀ pool ∈ [available, healthy, probing, draining, dueProbe.toList], ∀ account ∈ pool, account ∈ available) :
    ∀ account ∈ effectivePool healthy probing draining available dueProbe, account ∈ available := by
  unfold effectivePool
  extract_lets healthPool byPolicy
  have health : ∀ account ∈ healthPool, account ∈ available := by
    unfold healthPool
    cases dueProbe with
    | none =>
      apply firstNonempty_subset
      intro pool member
      exact within pool (by simp only [List.mem_cons] at member ⊢; tauto)
    | some probe => exact within [probe] (by simp)
  apply firstNonempty_subset
  intro pool member account inPool
  simp only [List.mem_cons, List.not_mem_nil, or_false] at member
  rcases member with rfl | rfl | rfl | rfl
  · exact health account inPool
  all_goals exact health account (List.mem_of_mem_filter inPool)

theorem chooseStrategy_picks (platform : Platform) (options : SelectAccountOptions)
    {pool : List AccountState} (some_ : pool ≠ []) : Picks pool (chooseStrategy platform options pool) := by
  have earlier : ∀ pool : List AccountState, pool ≠ [] →
      (if options.preferEarlierReset then
        preferEarlierResetCandidates pool options.now options.preferEarlierResetWindow else pool) ≠ [] := by
    intro pool some_
    split
    · exact preferEarlierReset_ne_nil _ _ some_
    · exact some_
  have earlierWithin : ∀ pool : List AccountState, ∀ account ∈
      (if options.preferEarlierReset then
        preferEarlierResetCandidates pool options.now options.preferEarlierResetWindow else pool),
      account ∈ pool := by
    intro pool account member
    split at member
    · exact List.mem_of_mem_filter member
    · exact member
  have costless := lowestPlannerCost_ne_nil options.routingCosts some_
  have within := lowestPlannerCost_subset options.routingCosts pool
  simp only [chooseStrategy]
  split
  · split
    · exact (seededAccount_picks platform _ costless).of_subset within
    · exact minBy_picks _ some_
  · split
    · exact (minBy_picks _ (earlier pool some_)).of_subset (earlierWithin pool)
    · apply (selectCapacityWeighted_picks platform _ _
        (lowestPlannerCost_ne_nil _ (earlier pool some_))).of_subset
      intro account member
      exact earlierWithin pool account (lowestPlannerCost_subset _ _ account member)
  · exact (selectRelativeAvailability_picks platform _ _ _ _ _ _ costless).of_subset within
  · exact (minBy_picks _ (earlier pool some_)).of_subset (earlierWithin pool)
  · split
    · apply (seededAccount_picks platform _ (lowestPlannerCost_ne_nil _ (earlier pool some_))).of_subset
      intro account member
      exact earlierWithin pool account (lowestPlannerCost_subset _ _ account member)
    · exact minBy_picks _ some_

theorem dueProbe_mem {options : SelectAccountOptions} {available : List AccountState} {probe : AccountState}
    (found : dueProbe options available = some probe) : probe ∈ available := by
  unfold dueProbe at found
  split at found
  · exact List.mem_of_mem_filter (List.mem_of_mem_filter (firstLeast_mem found))
  · cases found

/-- A strategy never loses the request: with an available account it picks one. -/
theorem chooseAccount_picks (platform : Platform) (options : SelectAccountOptions)
    {available : List AccountState} (recovery : options.recoveryProbeOnly = false)
    (some_ : available ≠ []) : Picks available (chooseAccount platform options available) := by
  simp only [chooseAccount, recovery]
  split
  · exact (minBy_picks _ (selectPlanTier_ne_nil platform _ some_)).of_subset (selectPlanTier_subset platform _ _)
  split
  · exact minBy_picks _ some_
  split
  · exact minBy_picks _ some_
  split
  · exact minBy_picks _ some_
  rw [if_neg (by simp)]
  have poolSome := effectivePool_ne_nil (healthTier available HEALTH_TIER_HEALTHY)
    (healthTier available HEALTH_TIER_PROBING) (healthTier available HEALTH_TIER_DRAINING) (dueProbe options available) some_
  have poolWithin : ∀ account ∈ effectivePool (healthTier available HEALTH_TIER_HEALTHY)
      (healthTier available HEALTH_TIER_PROBING) (healthTier available HEALTH_TIER_DRAINING) available
      (dueProbe options available), account ∈ available := by
    apply effectivePool_subset
    intro tier member account inTier
    simp only [List.mem_cons, List.not_mem_nil, or_false] at member
    rcases member with rfl | rfl | rfl | rfl | rfl
    · exact inTier
    · exact List.mem_of_mem_filter inTier
    · exact List.mem_of_mem_filter inTier
    · exact List.mem_of_mem_filter inTier
    · exact dueProbe_mem (Option.mem_toList.mp inTier)
  split
  · exact (minBy_picks _ poolSome).of_subset poolWithin
  · exact (chooseStrategy_picks platform options poolSome).of_subset poolWithin

end SpaceApp.Gateway.Router
