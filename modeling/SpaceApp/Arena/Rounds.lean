import Mathlib.Algebra.Ring.Int.Defs
import Mathlib.Data.List.NodupEquivFin
import SpaceApp.Arena.Turns

/-! Whole rounds: what a tick does to the accounts, what the placement bonus adds, and what the
score says at the end of every fair tick.
-/

set_option autoImplicit false

namespace SpaceApp.Arena

open Foundation (along_of_forall along_guarded foldl_along)

variable {τ : Type} {n : Nat}

/-- The account of a destroyed ship later in the round: only its placement bonus may be new. -/
structure Account.Rested (before after : Account) : Prop where
  destroyed : after.alive = false
  hull : after.hull = 0
  entries : after.breakdown = { before.breakdown with placement := after.breakdown.placement }
  score : after.score = before.score + (after.breakdown.placement - before.breakdown.placement)

namespace AgentArena

theorem loop_plays {Element : Type} {fair : Prop} {arena : AgentArena τ n}
    {body : AgentArena τ n → Element → AgentArena τ n} (ok : AgentArena τ n → Element → Prop)
    (turn : ∀ arena element, (fair → ok arena element) → Plays fair arena (body arena element)) (list : List Element)
    (along : fair → Foundation.Along body ok arena list) : Plays fair arena (list.foldl body arena) :=
  (foldl_along (Plays fair) (fun _ => True) .refl .trans
    (fun arena element _ guard => ⟨turn arena element guard, trivial⟩) list trivial
    (along_guarded list arena along)).1

section

variable {fair : Prop} {arena next : AgentArena τ n} (timing : Timing τ) [LinearOrder τ] [Zero τ]
  (controls : Fin n → Option ShipControls) (touching : Touching n)

/-- A tick of play takes every account along a path of moves, fair ones when the tick is fair. -/
theorem play_plays (arena : AgentArena τ n) (guard : fair → FairTick timing controls touching arena) :
    Plays fair arena (arena.play timing controls touching) := by
  have scenario : Plays fair arena (arena.runScenario timing) :=
    .of_account (runScenario_account timing arena)
  have turns : Plays fair (arena.runScenario timing)
      ((List.finRange n).foldl (pilotTurn timing controls touching) (arena.runScenario timing)) :=
    loop_plays (FairTurn controls touching) (pilotTurn_plays timing controls touching) _
      fun isFair => (guard isFair).turns
  have drones : Plays fair arena (arena.opening timing controls touching) :=
    (scenario.trans turns).trans (.of_account (stepDrones_account timing touching _))
  have shots : Plays fair (arena.opening timing controls touching)
      ((arena.opening timing controls touching).stepShots timing touching) := by
    have cleared : Plays fair (arena.opening timing controls touching)
        { arena.opening timing controls touching with shots := [] } := .of_account fun _ => rfl
    have flown := loop_plays (FairShot timing touching) (fun _ => stepShot_plays timing touching)
      (arena.opening timing controls touching).shots fun isFair => (guard isFair).shots
    exact (cleared.trans flown).trans (.of_account fun _ => rfl)
  have contacts : Plays fair arena
      (((arena.opening timing controls touching).stepShots timing touching).stepContacts timing touching) :=
    (drones.trans shots).trans (loop_plays (fun _ _ => True)
      (fun arena slot _ => shipContacts_plays timing touching arena slot) _
      fun _ => along_of_forall (fun _ _ => trivial) _ _)
  have ticked : Plays fair _ (AgentArena.passTick timing _) := contacts.trans (.of_account fun _ => rfl)
  exact ticked.trans (loop_plays (fun _ _ => True) (fun arena slot _ => survive_plays arena slot) _
    fun _ => along_of_forall (fun _ _ => trivial) _ _)

end

def Awarded (before after : Account) : Prop :=
  after = before ∨ ∃ bonus ∈ Scoring.placement, after = before.credit .placement bonus

theorem placement_bonus {place : Nat} (some_bonus : 0 < Scoring.placement.getD place 0) :
    Scoring.placement.getD place 0 ∈ Scoring.placement := by
  match place with
  | 0 => simp [Scoring.placement]
  | 1 => simp [Scoring.placement]
  | 2 => simp [Scoring.placement]
  | place + 3 => simp [Scoring.placement] at some_bonus

theorem award_account (arena : AgentArena τ n) (ranked : Fin n × Nat) (slot : Fin n) :
    (slot ≠ ranked.1 → (arena.award ranked).account slot = arena.account slot) ∧
      Awarded (arena.account slot) ((arena.award ranked).account slot) := by
  simp only [award]
  split
  · next some_bonus =>
    rw [addScore, account_put]
    by_cases here : slot = ranked.1
    · subst here
      refine ⟨fun apart => absurd rfl apart, ?_⟩
      rw [if_pos rfl]
      exact .inr ⟨_, placement_bonus some_bonus, rfl⟩
    · rw [if_neg here]
      exact ⟨fun _ => rfl, .inl rfl⟩
  · exact ⟨fun _ => rfl, .inl rfl⟩

/-- Each pilot of the ranking is awarded once at most. -/
theorem awards_account (ranking : List (Fin n × Nat)) (nodup : (ranking.map Prod.fst).Nodup) (arena : AgentArena τ n)
    (slot : Fin n) : (slot ∉ ranking.map Prod.fst → (ranking.foldl award arena).account slot = arena.account slot) ∧
      Awarded (arena.account slot) ((ranking.foldl award arena).account slot) := by
  induction ranking generalizing arena with
  | nil => exact ⟨fun _ => rfl, .inl rfl⟩
  | cons ranked rest ih =>
    obtain ⟨fresh, nodup⟩ := List.nodup_cons.mp nodup
    obtain ⟨others, once⟩ := award_account arena ranked slot
    obtain ⟨later, last⟩ := ih nodup (arena.award ranked)
    refine ⟨fun absent => ?_, ?_⟩
    · rw [List.map_cons, List.mem_cons, not_or] at absent
      exact (later absent.2).trans (others absent.1)
    · by_cases here : slot = ranked.1
      · subst here
        rw [List.foldl_cons, later fresh]
        exact once
      · rw [others here] at last
        exact last

theorem placementOrder_nodup (arena : AgentArena τ n) : arena.placementOrder.Nodup := by
  refine List.Nodup.append ?_ ?_ fun slot survivor lost => ?_
  · exact (List.perm_insertionSort _ _).nodup_iff.mpr ((List.nodup_finRange n).filter _)
  · exact (List.perm_insertionSort _ _).nodup_iff.mpr ((List.nodup_finRange n).filter _)
  · rw [List.mem_insertionSort, List.mem_filter] at survivor lost
    simp [survivor.2] at lost

theorem finish_account (arena : AgentArena τ n) (slot : Fin n) :
    Awarded (arena.account slot) (arena.finish.account slot) := by
  simp only [finish]
  split
  · exact .inl rfl
  · refine (awards_account _ ?_ _ slot).2
    rw [List.zipIdx_map_fst]
    exact placementOrder_nodup _

theorem finish_over (arena : AgentArena τ n) : arena.finish.isOver = true := by
  have kept : ∀ (ranking : List (Fin n × Nat)) (arena : AgentArena τ n),
      (ranking.foldl award arena).isOver = arena.isOver := by
    intro ranking
    induction ranking with
    | nil => exact fun _ => rfl
    | cons ranked rest ih =>
      intro arena
      rw [List.foldl_cons, ih, award]
      split <;> rfl
  simp only [finish]
  split
  · rfl
  · exact kept _ _

section

variable {fair : Prop} (timing : Timing τ) [LinearOrder τ] [Zero τ] (controls : Fin n → Option ShipControls)
  (touching : Touching n)

/-- A tick of a running round: play, and the placement bonuses when the round is over. -/
theorem step_accounts {arena : AgentArena τ n} (running : arena.isOver = false)
    (guard : fair → FairTick timing controls touching arena) (sound : arena.Sound) (slot : Fin n) :
    ∃ played, Account.Path fair (arena.account slot) played ∧
      Awarded played ((arena.step timing controls touching).account slot) ∧
      ((arena.step timing controls touching).isOver = false →
        (arena.step timing controls touching).account slot = played) := by
  refine ⟨_, play_plays timing controls touching arena guard sound slot, ?_⟩
  simp only [step, running]
  by_cases ends : roundTicks ≤ (arena.play timing controls touching).tick ∨
      (arena.play timing controls touching).aliveShips.length = 0 ∨
        (arena.play timing controls touching).pvp = true ∧
          (arena.play timing controls touching).aliveShips.length ≤ 1
  · simp only [Bool.false_eq_true, if_false, if_pos ends]
    exact ⟨finish_account _ slot, fun running => by simp [finish_over] at running⟩
  · simp only [Bool.false_eq_true, if_false, if_neg ends]
    exact ⟨.inl rfl, fun _ => trivial⟩

end

end AgentArena

/-- The arenas a round comes to by ticks that are fair as far as asked. -/
inductive Run {τ : Type} {n : Nat} (timing : Timing τ) [LinearOrder τ] [Zero τ] (fair : Prop)
    (arena : AgentArena τ n) : AgentArena τ n → Prop where
  | here : Run timing fair arena arena
  | tick {next : AgentArena τ n} (before : Run timing fair arena next)
      (controls : Fin n → Option ShipControls) (touching : Touching n)
      (guard : fair → next.isOver = false → next.FairTick timing controls touching) :
      Run timing fair arena (next.step timing controls touching)

/-- What holds of the account of a pilot at the end of every tick. -/
structure Account.Right (fair : Prop) (account : Account) (isOver : Bool) : Prop where
  counted : account.Counted
  damage : fair → account.DamageTrue
  placement : account.breakdown.placement = 0 ∨ account.breakdown.placement ∈ Scoring.placement
  unplaced : isOver = false → account.breakdown.placement = 0

section

variable {fair : Prop} {timing : Timing τ} [LinearOrder τ] [Zero τ] {arena next : AgentArena τ n}

open AgentArena

theorem step_right (controls : Fin n → Option ShipControls) (touching : Touching n)
    (guard : fair → arena.isOver = false → arena.FairTick timing controls touching)
    (right : ∀ slot, (arena.account slot).Right fair arena.isOver) (slot : Fin n) :
    ((arena.step timing controls touching).account slot).Right fair
      (arena.step timing controls touching).isOver := by
  cases running : arena.isOver with
  | true =>
    have same : arena.step timing controls touching = arena := by simp [step, running]
    rw [same]
    exact right slot
  | false =>
    obtain ⟨played, path, awarded, plain⟩ := step_accounts timing controls touching running
      (fun isFair => guard isFair running) (fun slot => (right slot).counted) slot
    have before := right slot
    have counted : played.Counted := path.keeps Account.Counted (fun moved => moved.counted) before.counted
    have none_yet : played.breakdown.placement = 0 := path.placement_eq.trans (before.unplaced running)
    have damage : fair → played.DamageTrue := fun isFair => by
      obtain rfl : fair = True := eq_true isFair
      exact path.keeps Account.DamageTrue (fun moved => moved.damageTrue) (before.damage trivial)
    rcases awarded with same | ⟨bonus, member, same⟩
    · rw [same]
      exact ⟨counted, damage, .inl none_yet, fun _ => none_yet⟩
    · rw [same] at plain ⊢
      refine ⟨counted.gains bonus (by simp), damage, .inr ?_, fun running => ?_⟩
      · simpa [Account.credit, ScoreBreakdown.add, none_yet] using member
      · rw [plain running]
        exact none_yet

omit [LinearOrder τ] in
theorem start_account (mode : ArenaMode) (scenario : Scenario) (slot : Fin n) :
    (AgentArena.start (n := n) timing mode scenario).account slot = Account.fresh := by
  have rocks : ∀ (count : List Nat) (arena : AgentArena τ n),
      (count.foldl (fun arena _ => arena.spawnRock .large) arena).account slot = arena.account slot := by
    intro count
    induction count with
    | nil => exact fun _ => rfl
    | cons _ rest ih =>
      intro arena
      rw [List.foldl_cons, ih, spawnRock_account]
  exact rocks _ _

omit [LinearOrder τ] in
theorem start_right (mode : ArenaMode) (scenario : Scenario) (slot : Fin n) :
    ((AgentArena.start (n := n) timing mode scenario).account slot).Right fair
      (AgentArena.start (n := n) timing mode scenario).isOver := by
  rw [start_account]
  exact ⟨Account.fresh_counted, fun _ => Account.fresh_damageTrue, .inl rfl, fun _ => rfl⟩

theorem Run.right (run : Run timing fair arena next) (right : ∀ slot, (arena.account slot).Right fair arena.isOver)
    (slot : Fin n) : (next.account slot).Right fair next.isOver := by
  induction run generalizing slot with
  | here => exact right slot
  | tick _ controls touching guard ih => exact step_right controls touching guard ih slot

/-- In every round, fair or not, the ship and the entries but the damage are counted right. -/
theorem Run.accounts_counted (mode : ArenaMode) (scenario : Scenario)
    (run : Run timing False (AgentArena.start timing mode scenario) arena) (slot : Fin n) :
    (arena.account slot).Counted :=
  (run.right (start_right mode scenario) slot).counted

theorem Account.Rested.awarded {before after later : Account} (rested : before.Rested after)
    (counted : after.Counted) (awarded : Awarded after later) : before.Rested later := by
  rcases awarded with same | ⟨bonus, _, same⟩
  · rw [same]
    exact rested
  · subst same
    obtain ⟨destroyed, hull, entries, score⟩ := rested
    refine ⟨destroyed, hull, ?_, ?_⟩
    · simp only [Account.credit, ScoreBreakdown.add]
      rw [entries]
    · have total := counted.score_eq
      simp only [Account.credit, ScoreBreakdown.add, totalScore] at total ⊢
      omega

/-- From a fair state on, a destroyed ship gets its placement bonus and nothing else. -/
theorem Run.rests (run : Run timing True arena next) (right : ∀ slot, (arena.account slot).Right True arena.isOver)
    {slot : Fin n} (destroyed : (arena.account slot).alive = false) :
    (arena.account slot).Rested (next.account slot) := by
  induction run with
  | here =>
    have counted := (right slot).counted
    have none_left : (arena.account slot).hull = 0 := by
      have low := counted.hull_low
      have lost := counted.alive_iff
      simp only [destroyed, Bool.false_eq_true, false_iff] at lost
      omega
    exact ⟨destroyed, none_left, rfl, by omega⟩
  | @tick next before controls touching guard ih =>
    cases running : next.isOver with
    | true =>
      have same : next.step timing controls touching = next := by simp [step, running]
      rw [same]
      exact ih
    | false =>
      have counted := fun slot => (before.right right slot).counted
      obtain ⟨played, path, awarded, _⟩ := step_accounts timing controls touching running
        (fun isFair => guard isFair running) counted slot
      rw [path.rests ih.destroyed] at awarded
      exact ih.awarded (counted slot) awarded

end

/-- In every fair round each ship has 0 to 5 hull and is alive while it has any, its score is the
sum of its entries, and these match what happened; what was destroyed gets its placement bonus
and nothing else. -/
theorem score_says_what_happened (timing : Timing τ) [LinearOrder τ] [Zero τ] (mode : ArenaMode) (scenario : Scenario)
    {arena : AgentArena τ n} (run : Run timing True (AgentArena.start timing mode scenario) arena) :
    (∀ slot, (arena.account slot).Counted ∧ (arena.account slot).DamageTrue) ∧
      ∀ later, Run timing True arena later → ∀ slot, (arena.ships slot).alive = false →
        (arena.account slot).Rested (later.account slot) ∧
          ((later.account slot).breakdown.placement = 0 ∨
            (later.account slot).breakdown.placement ∈ Scoring.placement) := by
  have right := run.right (start_right mode scenario)
  refine ⟨fun slot => ⟨(right slot).counted, (right slot).damage trivial⟩, fun later further slot destroyed => ?_⟩
  exact ⟨further.rests right destroyed, (further.right right slot).placement⟩

namespace ThreePilots

/-! A round of three pilots in the shared arena, with one rock. -/

def scenario : Scenario where
  initialRocks := 1
  refills := 0
  events := []
  minRocks := 0

def apart : Touching 3 where
  bombRock := fun _ _ => false
  bombDrone := fun _ _ => false
  bombShot := fun _ _ => false
  bombShip := fun _ _ => false
  lungeRange := fun _ => false
  fireRange := fun _ => false
  shotShip := fun _ _ => false
  shotRock := fun _ _ => false
  shotDrone := fun _ _ => false
  shipRock := fun _ _ => false
  shipDrone := fun _ _ => false
  shipPickup := fun _ _ => false

/-- The first pilot rubs against the rock until one hull point is left. Then it shoots, the second
pilot's bomb reaches it, and a tick later the shot meets the rock. -/
def touchingAt (tick : Nat) : Touching 3 :=
  { apart with
    shipRock := fun slot _ => decide (slot = 0 ∧ tick < 250)
    bombShip := fun slot other => decide (tick = 300 ∧ slot = 1 ∧ other = 0)
    shotRock := fun _ _ => decide (tick = 301) }

def controlsAt (tick : Nat) (slot : Fin 3) : Option ShipControls :=
  if tick = 300 ∧ slot = 0 then some { fire := true }
  else if tick = 300 ∧ slot = 1 then some { bomb := true }
  else none

def round : Nat → AgentArena Int 3
  | 0 => AgentArena.start sixtieths .sharedArena scenario
  | tick + 1 => (round tick).step sixtieths (controlsAt tick) (touchingAt tick)

theorem round_run (tick : Nat) {later : Nat} (order : tick ≤ later) :
    Run sixtieths False (round tick) (round later) := by
  induction order with
  | refl => exact .here
  | step _ ih => exact .tick ih _ _ (fun never => never.elim)

set_option maxRecDepth 20000 in
theorem round_entries :
    ((round 301).ships 0).alive = false ∧ ((round 301).account 0).hull = 0 ∧
      ((round 301).account 0).repaired = 0 ∧ ((round 301).account 0).breakdown.damage = -900 ∧
      ((round 301).account 0).breakdown.rocks = 0 ∧ ((round 302).account 0).breakdown.rocks = 10 := by
  decide +kernel

end ThreePilots

theorem accounts_counted_late : ((ThreePilots.round 302).account 0).Counted :=
  Run.accounts_counted .sharedArena ThreePilots.scenario (ThreePilots.round_run 0 (Nat.zero_le 302)) 0

/-- The bomb took 150 points for a hull point the ship did not have, and the shot in flight scored
for the destroyed pilot. -/
theorem score_says_more_than_happened : ∃ arena later : AgentArena Int 3,
      Run sixtieths False (AgentArena.start sixtieths .sharedArena ThreePilots.scenario) arena ∧
        Run sixtieths False arena later ∧ ¬(arena.account 0).DamageTrue ∧ (arena.ships 0).alive = false ∧
          ¬(arena.account 0).Rested (later.account 0) := by
  obtain ⟨dead, hull, repaired, damage, before, after⟩ := ThreePilots.round_entries
  have first : Run sixtieths False (ThreePilots.round 0) (ThreePilots.round 301) :=
    ThreePilots.round_run 0 (Nat.zero_le 301)
  have second : Run sixtieths False (ThreePilots.round 301) (ThreePilots.round 302) :=
    ThreePilots.round_run 301 (Nat.le_succ 301)
  refine ⟨ThreePilots.round 301, ThreePilots.round 302, first, second, ?_, dead, ?_⟩
  · simp only [Account.DamageTrue, hull, repaired, damage]
    decide
  · intro rested
    have rocks := congrArg ScoreBreakdown.rocks rested.entries
    simp [before, after] at rocks

/-- One tick in which the second pilot's bomb clears the rock. -/
theorem score_says_what_happened_bomb :
    let touching := { ThreePilots.apart with bombRock := fun _ _ => true, bombShip := fun _ _ => true }
    let controls := fun slot : Fin 3 => if slot = 1 then some ({ bomb := true } : ShipControls) else none
    let arena := (AgentArena.start sixtieths .sharedArena ThreePilots.scenario).step sixtieths controls touching
    (arena.account 1).score = 10 ∧ (arena.account 1).Counted ∧ (arena.account 1).DamageTrue := by
  refine ⟨by decide +kernel, ?_⟩
  exact (score_says_what_happened sixtieths .sharedArena ThreePilots.scenario
    (.tick .here _ _ fun _ _ => by decide +kernel)).1 1

end SpaceApp.Arena
