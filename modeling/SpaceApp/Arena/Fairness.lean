import SpaceApp.Foundation.Loop
import SpaceApp.Arena.Simulation

/-! What one tick does to the accounts of the pilots, and when it is fair: no bomb takes more
from a ship than it has, and no shot of a destroyed ship scores.
-/

set_option autoImplicit false

namespace SpaceApp.Arena

open Foundation (Along along_of_forall foldl_along)

variable {τ : Type} {n : Nat}

def Ship.account (ship : Ship τ) (repaired : Nat) : Account where
  hull := ship.hull
  alive := ship.alive
  score := ship.stats.score
  breakdown := ship.stats.breakdown
  droneKills := ship.stats.kills.drones
  pickups := ship.stats.pickups
  aliveTicks := ship.stats.aliveTicks
  repaired := repaired

namespace AgentArena

def account (arena : AgentArena τ n) (slot : Fin n) : Account :=
  (arena.ships slot).account (arena.repaired slot)

section

variable (timing : Timing τ) [LinearOrder τ] [Zero τ] (controls : Fin n → Option ShipControls)
  (touching : Touching n)

/-- A pilot's turn is fair when the bomb it sets off takes no more from any ship than its shield
and hull. -/
def FairTurn (arena : AgentArena τ n) (slot : Fin n) : Prop :=
  (arena.ships slot).alive = true → ((controls slot).getD {}).bomb = true → 0 < (arena.ships slot).bombs →
    arena.pvp = true → ∀ other, other ≠ slot → arena.lands other = true → touching.bombShip slot other = true →
      (bombPilotDamage : Int) ≤ (arena.ships other).hull + (arena.ships other).shield

instance (arena : AgentArena τ n) (slot : Fin n) : Decidable (FairTurn controls touching arena slot) :=
  inferInstanceAs (Decidable (_ → _))

/-- The shot meets a rock, or a drone with its last point. -/
def shotScores (arena : AgentArena τ n) (shot : Shot τ n) : Bool :=
  match arena.rocks.find? fun rock => touching.shotRock shot.id rock.id with
  | some _ => true
  | none =>
      match arena.drones.find? fun drone => touching.shotDrone shot.id drone.id with
      | some drone => drone.hp ≤ 1
      | none => false

/-- A shot is fair when its owner is alive wherever it scores. -/
def FairShot (arena : AgentArena τ n) (shot : Shot τ n) : Prop :=
  ∀ owner, shot.owner = some owner → 0 < timing.lapse shot.life → arena.shotScores touching shot = true →
    (arena.ships owner).alive = true

instance (arena : AgentArena τ n) (shot : Shot τ n) : Decidable (FairShot timing touching arena shot) :=
  inferInstanceAs (Decidable (∀ owner, shot.owner = some owner → 0 < timing.lapse shot.life →
    arena.shotScores touching shot = true → (arena.ships owner).alive = true))

/-- A tick is fair when every pilot's turn and every shot in it is. -/
structure FairTick (arena : AgentArena τ n) : Prop where
  turns : Along (pilotTurn timing controls touching) (FairTurn controls touching) (arena.runScenario timing)
    (List.finRange n)
  shots : Along (stepShot timing touching) (FairShot timing touching)
    { arena.opening timing controls touching with shots := [] } (arena.opening timing controls touching).shots

instance (arena : AgentArena τ n) : Decidable (FairTick timing controls touching arena) :=
  decidable_of_iff (_ ∧ _) ⟨fun ⟨turns, shots⟩ => ⟨turns, shots⟩, fun fair => ⟨fair.turns, fair.shots⟩⟩

end

/-- Every account is counted right. -/
def Sound (arena : AgentArena τ n) : Prop :=
  ∀ slot, (arena.account slot).Counted

/-- From a sound arena to the next one, each account takes a path of moves. -/
def Plays (fair : Prop) (arena next : AgentArena τ n) : Prop :=
  arena.Sound → ∀ slot, Account.Path fair (arena.account slot) (next.account slot)

section

variable {fair : Prop} {arena next last : AgentArena τ n}

theorem Plays.sound (plays : Plays fair arena next) (sound : arena.Sound) : next.Sound :=
  fun slot => (plays sound slot).keeps Account.Counted (fun moved => moved.counted) (sound slot)

theorem Plays.refl (arena : AgentArena τ n) : Plays fair arena arena :=
  fun _ _ => .refl

theorem Plays.trans (first : Plays fair arena next) (second : Plays fair next last) : Plays fair arena last :=
  fun sound slot => (first sound slot).trans (second (first.sound sound) slot)

theorem Plays.of_account (same : ∀ slot, next.account slot = arena.account slot) : Plays fair arena next := by
  intro _ slot
  rw [same slot]
  exact .refl

theorem account_put (arena : AgentArena τ n) (slot other : Fin n) (ship : Ship τ) :
    (arena.put slot ship).account other =
      if other = slot then ship.account (arena.repaired slot) else arena.account other := by
  by_cases here : other = slot
  · subst here
    simp [account, put]
  · simp [account, put, here]

@[simp] theorem put_ships_same (arena : AgentArena τ n) (slot : Fin n) (ship : Ship τ) :
    (arena.put slot ship).ships slot = ship := by
  simp [put]

@[simp] theorem put_ships_other (arena : AgentArena τ n) {slot other : Fin n} (ship : Ship τ)
    (apart : other ≠ slot) : (arena.put slot ship).ships other = arena.ships other := by
  simp [put, apart]

theorem Plays.put (slot : Fin n) {ship : Ship τ}
    (path : arena.Sound → Account.Path fair (arena.account slot) (ship.account (arena.repaired slot))) :
    Plays fair arena (arena.put slot ship) := by
  intro sound other
  rw [account_put]
  by_cases here : other = slot
  · subst here
    simpa using path sound
  · simp only [here, if_false]
    exact .refl

theorem Plays.put_same (slot : Fin n) {ship : Ship τ}
    (same : ∀ repaired, ship.account repaired = (arena.ships slot).account repaired) :
    Plays fair arena (arena.put slot ship) := by
  refine .put slot fun _ => ?_
  rw [same]
  exact .refl

theorem spawnRock_account (arena : AgentArena τ n) (size : RockSize) (slot : Fin n) :
    (arena.spawnRock size).account slot = arena.account slot := by
  simp only [spawnRock]
  split <;> rfl

theorem splitRock_account (arena : AgentArena τ n) (size : RockSize) (slot : Fin n) :
    (arena.splitRock size).account slot = arena.account slot := by
  cases size <;> simp [splitRock, spawnRock_account]

theorem reward_account_same (arena : AgentArena τ n) (slot : Fin n) (attacker : Option (Fin n))
    (gain : Ship τ → Ship τ) : (arena.reward slot attacker gain).account slot = arena.account slot := by
  cases attacker with
  | none => rfl
  | some other =>
    simp only [reward]
    split
    · next living => rw [account_put, if_neg living.1.symm]
    · rfl

theorem reward_path (arena : AgentArena τ n) (slot : Fin n) (attacker : Option (Fin n)) {gain : Ship τ → Ship τ}
    {points : Int}
    (gained : ∀ ship repaired, (gain ship).account repaired = (ship.account repaired).credit .pilots points)
    (other : Fin n) : Account.Path fair (arena.account other) ((arena.reward slot attacker gain).account other) := by
  cases attacker with
  | none => exact .refl
  | some attacker =>
    simp only [reward]
    split
    · next living =>
      rw [account_put]
      split
      · next here =>
        subst here
        rw [gained]
        exact .single (.gains .pilots points (.inr rfl) fun _ => living.2)
      · exact .refl
    · exact .refl

end

end AgentArena

namespace Ship

/-- The units of a hit that find no shield take hull. -/
theorem takeUnits_account (amount : Nat) (ship : Ship τ) (repaired : Nat) :
    (ship.takeUnits amount).2 = amount - ship.shield ∧
      (ship.takeUnits amount).1.account repaired =
        { ship.account repaired with hull := ship.hull - ((amount - ship.shield : Nat) : Int) } := by
  induction amount generalizing ship with
  | zero => simp [takeUnits, account]
  | succ amount ih =>
    simp only [takeUnits]
    split
    · have units : amount - (ship.shield - 1) = amount + 1 - ship.shield := by omega
      have rest := ih
        { ship with
          shield := ship.shield - 1
          stats := { ship.stats with shieldAbsorbed := ship.stats.shieldAbsorbed + 1 } }
      simp only [units] at rest
      exact rest
    · have units : amount + 1 - ship.shield = amount - ship.shield + 1 := by omega
      obtain ⟨lost, hit⟩ := ih { ship with hull := ship.hull - 1 }
      refine ⟨by simp only [lost, units], ?_⟩
      refine hit.trans ?_
      simp only [account, units, Account.mk.injEq, and_true]
      omega

theorem countHullLost_account (ship : Ship τ) (lost repaired : Nat) : (ship.countHullLost lost).account repaired =
      if 0 < lost then (ship.account repaired).credit .damage (Scoring.hullLost * lost)
      else ship.account repaired := by
  simp only [countHullLost]
  split <;> rfl

/-- A hit's hull points are counted as damage; the shield takes the rest. -/
theorem hit_account (timing : Timing τ) (amount : Nat) (ship : Ship τ) (repaired : Nat) :
    (ship.hit timing amount).account repaired =
      if ship.shield < amount then (ship.account repaired).struck (amount - ship.shield)
      else ship.account repaired := by
  obtain ⟨lost, taken⟩ := takeUnits_account amount ship repaired
  have counted := countHullLost_account (ship.takeUnits amount).1 (ship.takeUnits amount).2 repaired
  rw [taken, lost] at counted
  refine Eq.trans ?_ (counted.trans ?_)
  · rw [← lost]
    rfl
  · by_cases through : ship.shield < amount
    · rw [if_pos through, if_pos (by omega)]
      rfl
    · rw [if_neg through, if_neg (by omega)]
      have none_lost : amount - ship.shield = 0 := by omega
      simp [none_lost, account]

end Ship

namespace AgentArena

section

variable {fair : Prop} {arena : AgentArena τ n}

theorem destroyShip_account (arena : AgentArena τ n) (slot : Fin n) (attacker : Option (Fin n)) :
    (arena.destroyShip slot attacker).account slot =
      { arena.account slot with
        alive := false
        hull := 0 } := by
  rw [destroyShip, reward_account_same, account_put, if_pos rfl]
  rfl

theorem destroyShip_other (arena : AgentArena τ n) {slot other : Fin n} (attacker : Option (Fin n))
    (apart : other ≠ slot) :
    Account.Path fair (arena.account other) ((arena.destroyShip slot attacker).account other) := by
  have rewarded : Account.Path fair _ ((arena.destroyShip slot attacker).account other) :=
    reward_path _ slot attacker (fun _ _ => rfl) other
  rwa [account_put, if_neg apart] at rewarded

theorem splits_plays (arena : AgentArena τ n) (size : RockSize) (splits : Bool) :
    Plays fair arena (if splits then arena.splitRock size else arena) := by
  cases splits with
  | true => exact .of_account fun slot => splitRock_account arena size slot
  | false => exact .refl _

theorem destroyRock_plays (rock : Rock) (slot : Option (Fin n)) (splits : Bool)
    (guard : fair → ∀ pilot, slot = some pilot → (arena.ships pilot).alive = true) :
    Plays fair arena (arena.destroyRock rock slot splits) := by
  simp only [destroyRock]
  by_cases there : (arena.rocks.any fun other => decide (other.id = rock.id)) = true
  · rw [if_pos there]
    have cleared : Plays fair arena
        { arena with rocks := arena.rocks.eraseP fun other => other.id = rock.id } :=
      .of_account fun _ => rfl
    refine cleared.trans (Plays.trans ?_ (splits_plays _ rock.size splits))
    cases slot with
    | none => exact .refl _
    | some pilot =>
      exact .put pilot fun _ => .single (.gains .rocks _ (.inl rfl) fun isFair => guard isFair pilot rfl)
  · rw [if_neg there]
    exact .refl _

theorem destroyDrone_plays (drone : Drone τ) (slot : Option (Fin n))
    (guard : fair → ∀ pilot, slot = some pilot → (arena.ships pilot).alive = true) :
    Plays fair arena (arena.destroyDrone drone slot) := by
  simp only [destroyDrone]
  by_cases there : (arena.drones.any fun other => decide (other.id = drone.id)) = true
  · rw [if_pos there]
    have cleared : Plays fair arena
        { arena with drones := arena.drones.eraseP fun other => other.id = drone.id } :=
      .of_account fun _ => rfl
    refine cleared.trans ?_
    cases slot with
    | none => exact .refl _
    | some pilot => exact .put pilot fun _ => .single (.downs drone.kind fun isFair => guard isFair pilot rfl)
  · rw [if_neg there]
    exact .refl _

variable (timing : Timing τ) [LinearOrder τ] [Zero τ]

theorem damageShip_other (arena : AgentArena τ n) {slot other : Fin n} (amount : Nat)
    (attacker : Option (Fin n)) (apart : other ≠ slot) :
    Account.Path fair (arena.account other) ((arena.damageShip timing slot amount attacker).account other) := by
  simp only [damageShip]
  split
  · have rewarded : Account.Path fair _
        (((arena.put slot ((arena.ships slot).hit timing amount)).reward slot attacker fun ship =>
          ship.addScore .pilots Scoring.pilotHit).account other) :=
      reward_path _ slot attacker (fun _ _ => rfl) other
    rw [account_put, if_neg apart] at rewarded
    split
    · exact rewarded.trans (destroyShip_other _ attacker apart)
    · exact rewarded
  · exact .refl

/-- A hit that lands takes from the hull what the shield does not take, and the ship with it. -/
theorem damageShip_account (arena : AgentArena τ n) (slot : Fin n) (amount : Nat) (attacker : Option (Fin n))
    (counted : (arena.account slot).Counted) : (arena.damageShip timing slot amount attacker).account slot =
      if arena.lands slot = true ∧ (arena.ships slot).shield < amount then
        (arena.account slot).hurt (amount - (arena.ships slot).shield)
      else arena.account slot := by
  by_cases lands : arena.lands slot = true
  · have living : (arena.ships slot).alive = true := by
      have both := lands
      simp only [AgentArena.lands, decide_eq_true_eq] at both
      exact both.1
    have some_hull : 0 < (arena.ships slot).hull := counted.alive_iff.mp living
    have taken : ((arena.ships slot).hit timing amount).account (arena.repaired slot) =
        if (arena.ships slot).shield < amount then
          (arena.account slot).struck (amount - (arena.ships slot).shield)
        else arena.account slot :=
      Ship.hit_account timing amount (arena.ships slot) (arena.repaired slot)
    simp only [damageShip, lands, if_true, true_and]
    -- the account after the hit, before the question whether the ship is lost
    have struck : ((arena.put slot ((arena.ships slot).hit timing amount)).reward slot attacker fun ship =>
        ship.addScore .pilots Scoring.pilotHit).account slot =
          ((arena.ships slot).hit timing amount).account (arena.repaired slot) := by
      rw [reward_account_same, account_put, if_pos rfl]
    have hull := congrArg Account.hull (struck.trans taken)
    by_cases through : (arena.ships slot).shield < amount
    · rw [if_pos through] at taken hull ⊢
      simp only [Account.hurt]
      split
      · next lost =>
        change (AgentArena.account _ slot).hull ≤ 0 at lost
        rw [hull] at lost
        rw [if_pos lost, destroyShip_account, struck, taken]
      · next left =>
        change ¬(AgentArena.account _ slot).hull ≤ 0 at left
        rw [hull] at left
        rw [if_neg left, struck, taken]
    · rw [if_neg through] at taken hull ⊢
      change _ = (arena.ships slot).hull at hull
      split
      · next lost =>
        change (AgentArena.account _ slot).hull ≤ 0 at lost
        omega
      · rw [struck, taken]
  · simp [damageShip, lands]

/-- A hit is fair that takes no more than the shield and the hull. -/
theorem damageShip_plays (slot : Fin n) (amount : Nat) (attacker : Option (Fin n))
    (covered : fair → arena.lands slot = true → (amount : Int) ≤ (arena.ships slot).hull + (arena.ships slot).shield) :
    Plays fair arena (arena.damageShip timing slot amount attacker) := by
  intro sound other
  by_cases here : other = slot
  · subst here
    rw [damageShip_account timing arena other amount attacker (sound other)]
    split
    · next through =>
      obtain ⟨lands, through⟩ := through
      have living := lands
      simp only [AgentArena.lands, decide_eq_true_eq] at living
      refine .single (.hurts _ (by omega) living.1 fun isFair => ?_)
      have enough := covered isFair lands
      change _ ≤ (arena.ships other).hull
      omega
    · exact .refl
  · exact damageShip_other timing arena amount attacker here

theorem damageShip_one_plays (slot : Fin n) (attacker : Option (Fin n)) :
    Plays fair arena (arena.damageShip timing slot 1 attacker) := by
  intro sound
  refine damageShip_plays timing slot 1 attacker (fun _ lands => ?_) sound
  simp only [AgentArena.lands, decide_eq_true_eq] at lands
  have some_hull : 0 < (arena.ships slot).hull := (sound slot).alive_iff.mp lands.1
  omega

variable {timing}

theorem damageShip_ships (arena : AgentArena τ n) {slot other : Fin n} (amount : Nat)
    (attacker : Option (Fin n)) (apart : other ≠ slot) (bystander : attacker ≠ some other) :
    (arena.damageShip timing slot amount attacker).ships other = arena.ships other := by
  have rewarded : ∀ (arena : AgentArena τ n) (gain : Ship τ → Ship τ),
      (arena.reward slot attacker gain).ships other = arena.ships other := by
    intro arena gain
    cases attacker with
    | none => rfl
    | some attacker =>
      simp only [reward]
      split
      · exact put_ships_other _ _ fun same => bystander (same ▸ rfl)
      · rfl
  simp only [damageShip]
  split
  · split
    · rw [destroyShip, rewarded, put_ships_other _ _ apart, rewarded, put_ships_other _ _ apart]
    · rw [rewarded, put_ships_other _ _ apart]
  · rfl

end

/-- Only this pilot's ship changed, and not its life. -/
structure Only (slot : Fin n) (arena next : AgentArena τ n) : Prop where
  others : ∀ other, other ≠ slot → next.ships other = arena.ships other
  alive : (next.ships slot).alive = (arena.ships slot).alive
  mode : next.mode = arena.mode

section

variable {fair : Prop} {arena next last : AgentArena τ n} {slot : Fin n}

theorem Only.refl (slot : Fin n) (arena : AgentArena τ n) : Only slot arena arena :=
  ⟨fun _ _ => rfl, rfl, rfl⟩

theorem Only.trans (first : Only slot arena next) (second : Only slot next last) : Only slot arena last :=
  ⟨fun other apart => (second.others other apart).trans (first.others other apart),
    second.alive.trans first.alive, second.mode.trans first.mode⟩

theorem Only.put (arena : AgentArena τ n) {ship : Ship τ} (alive : ship.alive = (arena.ships slot).alive) :
    Only slot arena (arena.put slot ship) :=
  ⟨fun _ apart => put_ships_other _ _ apart, by simpa using alive, rfl⟩

theorem destroyRock_only (arena : AgentArena τ n) (slot : Fin n) (rock : Rock) :
    Only slot arena (arena.destroyRock rock (some slot) false) := by
  simp only [destroyRock]
  split
  · exact ⟨fun _ apart => by simp [apart], by simp [Ship.addScore, Ship.killsRock], rfl⟩
  · exact .refl slot arena

theorem destroyDrone_only (arena : AgentArena τ n) (slot : Fin n) (drone : Drone τ) :
    Only slot arena (arena.destroyDrone drone (some slot)) := by
  simp only [destroyDrone]
  split
  · exact ⟨fun _ apart => by simp [apart], by simp [Ship.addScore, Ship.killsDrone], rfl⟩
  · exact .refl slot arena

theorem own_loop {Element : Type} {body : AgentArena τ n → Element → AgentArena τ n} (slot : Fin n)
    (turn : ∀ arena element, (arena.ships slot).alive = true → Plays fair arena (body arena element))
    (only : ∀ arena element, Only slot arena (body arena element)) (list : List Element)
    (living : (arena.ships slot).alive = true) :
    Plays fair arena (list.foldl body arena) ∧ Only slot arena (list.foldl body arena) := by
  have both := foldl_along (fun first second => Plays fair first second ∧ Only slot first second)
    (fun arena => (arena.ships slot).alive = true)
    (fun arena => ⟨.refl arena, .refl slot arena⟩)
    (fun first second => ⟨first.1.trans second.1, first.2.trans second.2⟩)
    (fun arena element living _ =>
      ⟨⟨turn arena element living, only arena element⟩, (only arena element).alive.trans living⟩)
    list living (along_of_forall (fun _ _ => trivial) list arena)
  exact both.1

end

end AgentArena

end SpaceApp.Arena
