import SpaceApp.Arena.Fairness

/-! What the parts of a tick do to the accounts: the pilots' turns with their bombs, the shots in
flight, the contacts, and the tick survived.
-/

set_option autoImplicit false

namespace SpaceApp.Arena

open Foundation (Along along_of_forall foldl_along)

variable {τ : Type} {n : Nat}

namespace AgentArena

section

variable {fair : Prop} {arena : AgentArena τ n} {slot : Fin n} (touching : Touching n)

theorem bombRocks_own (list : List Rock) (living : (arena.ships slot).alive = true) :
    Plays fair arena (list.foldl (bombRock touching slot) arena) ∧
      Only slot arena (list.foldl (bombRock touching slot) arena) := by
  refine own_loop slot (fun arena rock living => ?_) (fun arena rock => ?_) list living
  · simp only [bombRock]
    split
    · exact destroyRock_plays rock _ false fun _ pilot same => by cases same; exact living
    · exact .refl _
  · simp only [bombRock]
    split
    · exact destroyRock_only arena slot rock
    · exact .refl slot _

theorem bombDrones_own (list : List (Drone τ)) (living : (arena.ships slot).alive = true) :
    Plays fair arena (list.foldl (bombDrone touching slot) arena) ∧
      Only slot arena (list.foldl (bombDrone touching slot) arena) := by
  refine own_loop slot (fun arena drone living => ?_) (fun arena drone => ?_) list living
  · simp only [bombDrone]
    split
    · exact destroyDrone_plays drone _ fun _ pilot same => by cases same; exact living
    · exact .refl _
  · simp only [bombDrone]
    split
    · exact destroyDrone_only arena slot drone
    · exact .refl slot _

theorem runScenario_account (timing : Timing τ) [Zero τ] (arena : AgentArena τ n) (slot : Fin n) :
    (arena.runScenario timing).account slot = arena.account slot := by
  have spawned : ∀ (arena : AgentArena τ n) (kind : SpawnKind),
      (arena.spawn timing kind).account slot = arena.account slot := by
    intro arena kind
    cases kind <;> simp only [spawn] <;> split <;> rfl
  have events : ∀ (events : List SpawnEvent) (arena : AgentArena τ n),
      (runEvents timing events arena).account slot = arena.account slot := by
    intro events
    induction events with
    | nil => exact fun _ => rfl
    | cons event rest ih =>
      intro arena
      simp only [runEvents]
      split
      · rw [ih, spawned]
      · rfl
  simp only [runScenario]
  split
  · rw [spawnRock_account]
    exact events arena.events arena
  · exact events arena.events arena

theorem countHit_own (arena : AgentArena τ n) (owner : Fin n) :
    Plays fair arena (arena.countHit owner) ∧ Only owner arena (arena.countHit owner) :=
  ⟨.put_same owner fun _ => rfl, .put arena rfl⟩

theorem hitDrone_plays (drone : Drone τ) (owner : Fin n)
    (guard : fair → drone.hp ≤ 1 → (arena.ships owner).alive = true) :
    Plays fair arena (arena.hitDrone drone owner) := by
  have marked : Plays fair arena
      { arena with
        drones := arena.drones.map fun other =>
          if other.id = drone.id then { drone with hp := drone.hp - 1 } else other } :=
    .of_account fun _ => rfl
  simp only [hitDrone]
  split
  · next last =>
    refine marked.trans (destroyDrone_plays _ _ fun isFair pilot same => ?_)
    cases same
    exact guard isFair (by omega)
  · exact marked

end

section

variable {fair : Prop} {arena : AgentArena τ n} {slot : Fin n} {timing : Timing τ} [LinearOrder τ] [Zero τ]
  (controls : Fin n → Option ShipControls) {touching : Touching n}

/-- No hit of the bomb takes more from a ship of the list than it has. -/
def Covered (touching : Touching n) (arena : AgentArena τ n) (slot : Fin n) (list : List (Fin n)) : Prop :=
  ∀ other ∈ list, other ≠ slot → arena.lands other = true → touching.bombShip slot other = true →
    (bombPilotDamage : Int) ≤ (arena.ships other).hull + (arena.ships other).shield

theorem Covered.of_ships {arena next : AgentArena τ n} {list : List (Fin n)}
    (same : ∀ other ∈ list, other ≠ slot → next.ships other = arena.ships other)
    (covered : Covered touching arena slot list) : Covered touching next slot list := by
  intro other member apart
  simp only [lands, same other member apart]
  exact covered other member apart

theorem bombShips_plays (list : List (Fin n)) (nodup : list.Nodup) (covered : fair → Covered touching arena slot list) :
    Plays fair arena (list.foldl (bombShip timing touching slot) arena) := by
  induction list generalizing arena with
  | nil => exact .refl _
  | cons target rest ih =>
    obtain ⟨fresh, nodup⟩ := List.nodup_cons.mp nodup
    have hit : Plays fair arena (arena.bombShip timing touching slot target) := by
      simp only [bombShip]
      split
      · next reached =>
        refine damageShip_plays timing target bombPilotDamage _ fun isFair lands => ?_
        exact covered isFair target (List.mem_cons_self ..) reached.1 lands reached.2.2
      · exact .refl _
    refine hit.trans (ih nodup fun isFair => ?_)
    refine Covered.of_ships (fun other member apart => ?_) fun other member => covered isFair other
      (List.mem_cons_of_mem _ member)
    simp only [bombShip]
    split
    · refine damageShip_ships arena _ _ (fun same => fresh (same ▸ member)) fun same => apart ?_
      exact (Option.some.inj same).symm
    · rfl

variable (timing touching)

omit [Zero τ] in
theorem bombObjects_own (living : (arena.ships slot).alive = true) :
    Plays fair arena (arena.bombObjects timing touching slot) ∧
      Only slot arena (arena.bombObjects timing touching slot) := by
  have armed : Plays fair arena (arena.armBomb timing slot) ∧ Only slot arena (arena.armBomb timing slot) :=
    ⟨.put_same slot fun _ => rfl, .put arena rfl⟩
  have rocks : Plays fair _ _ ∧ Only slot _ _ := bombRocks_own touching (arena.armBomb timing slot).rocks
    (armed.2.alive.trans living)
  have drones : Plays fair _ _ ∧ Only slot _ _ := bombDrones_own touching
    ((arena.armBomb timing slot).rocks.foldl (bombRock touching slot) (arena.armBomb timing slot)).drones
    ((rocks.2.alive.trans armed.2.alive).trans living)
  refine ⟨armed.1.trans (rocks.1.trans (drones.1.trans (.of_account fun _ => rfl))), ?_⟩
  refine armed.2.trans (rocks.2.trans (drones.2.trans ?_))
  exact ⟨fun _ _ => rfl, rfl, rfl⟩

theorem detonateBomb_plays (living : (arena.ships slot).alive = true)
    (covered : fair → arena.pvp = true → Covered touching arena slot (List.finRange n)) :
    Plays fair arena (arena.detonateBomb timing touching slot) := by
  obtain ⟨objects, only⟩ : Plays fair _ _ ∧ Only slot _ _ :=
    bombObjects_own timing touching living
  simp only [detonateBomb]
  split
  · next pvp =>
    have was_pvp : arena.pvp = true := by
      simpa only [AgentArena.pvp, only.mode] using pvp
    refine objects.trans (bombShips_plays _ (List.nodup_finRange n) fun isFair => ?_)
    exact Covered.of_ships (fun other _ apart => only.others other apart) (covered isFair was_pvp)
  · exact objects

section
variable (arena : AgentArena τ n) (slot : Fin n)

theorem steer_own (turn : ShipControls) :
    Plays fair arena (arena.steer timing slot turn) ∧ Only slot arena (arena.steer timing slot turn) := by
  simp only [steer]
  split
  · exact ⟨.put_same slot fun _ => rfl, .put arena rfl⟩
  · exact ⟨.put_same slot fun _ => rfl, .put arena rfl⟩

theorem steer_bombs (turn : ShipControls) :
    ((arena.steer timing slot turn).ships slot).bombs = (arena.ships slot).bombs := by
  simp only [steer]
  split <;> simp

theorem fire_plays (turn : ShipControls) : Plays fair arena (arena.fire timing slot turn) := by
  simp only [fire]
  split
  · have fired : Plays fair arena
        (arena.put slot
          { arena.ships slot with
            fireCooldown := timing.fireCooldown
            stats :=
              { (arena.ships slot).stats with shotsFired := (arena.ships slot).stats.shotsFired + 1 } }) :=
      .put_same slot fun _ => rfl
    exact fired.trans (.of_account fun _ => rfl)
  · exact .refl _

theorem pilotTurn_plays (guard : fair → arena.FairTurn controls touching slot) :
    Plays fair arena (arena.pilotTurn timing controls touching slot) := by
  simp only [pilotTurn]
  split
  · next living =>
    obtain ⟨steered, only⟩ : Plays fair _ _ ∧ _ := steer_own timing arena slot ((controls slot).getD {})
    refine (steered.trans ?_).trans (fire_plays timing _ slot _)
    simp only [bombs]
    split
    · next bombing =>
      obtain ⟨asked, has_one⟩ := bombing
      rw [steer_bombs] at has_one
      refine detonateBomb_plays timing touching (only.alive.trans living) fun isFair pvp => ?_
      refine Covered.of_ships (fun other _ apart => only.others other apart) fun other _ => ?_
      refine guard isFair living asked has_one ?_ other
      simpa only [AgentArena.pvp, only.mode] using pvp
    · exact .refl _
  · exact .refl _

theorem stepDrones_account : (arena.stepDrones timing touching).account slot = arena.account slot := by
  have each : ∀ (drones : List (Drone τ)) (arena : AgentArena τ n),
      (drones.foldl (stepDrone timing touching) arena).account slot = arena.account slot := by
    intro drones
    induction drones with
    | nil => exact fun _ => rfl
    | cons drone rest ih =>
      intro arena
      rw [List.foldl_cons, ih, stepDrone]
      split
      · rfl
      · split
        · dsimp only
          split <;> rfl
        · rfl
  exact each _ _

end

theorem flyBolt_plays (shot : Shot τ n) : Plays fair arena (arena.flyBolt timing touching shot).1 := by
  simp only [flyBolt]
  split
  · exact damageShip_one_plays timing _ none
  · exact .refl _

theorem flyLaser_plays (shot : Shot τ n) (owner : Fin n)
    (guard : fair → arena.shotScores touching shot = true → (arena.ships owner).alive = true) :
    Plays fair arena (arena.flyLaser timing touching shot owner).1 := by
  obtain ⟨counted, only⟩ : Plays fair _ _ ∧ _ := countHit_own arena owner
  simp only [flyLaser]
  cases hitRock : arena.rocks.find? fun rock => touching.shotRock shot.id rock.id with
  | some rock =>
    refine counted.trans (destroyRock_plays rock _ true fun isFair pilot same => ?_)
    cases same
    exact only.alive.trans (guard isFair (by simp only [shotScores, hitRock]))
  | none =>
    cases met : arena.drones.find? fun drone => touching.shotDrone shot.id drone.id with
    | some drone =>
      refine counted.trans (hitDrone_plays drone owner fun isFair last => ?_)
      refine only.alive.trans (guard isFair ?_)
      simp only [shotScores, hitRock, met, decide_eq_true_eq]
      exact last
    | none =>
      dsimp only
      split
      · split
        · exact counted.trans (damageShip_one_plays timing _ _)
        · exact .refl _
      · exact .refl _

theorem stepShot_plays (shot : Shot τ n) (guard : fair → arena.FairShot timing touching shot) :
    Plays fair arena (arena.stepShot timing touching shot) := by
  have flown : Plays fair arena (arena.flyShot timing touching shot).1 := by
    simp only [flyShot]
    split
    · exact .refl _
    · next flying =>
      cases owned : shot.owner with
      | none => exact flyBolt_plays timing touching _
      | some owner =>
        exact flyLaser_plays timing touching _ owner fun isFair scores =>
          guard isFair owner owned (not_le.mp flying) scores
  exact flown.trans (.of_account fun _ => rfl)

theorem rockContact_plays (arena : AgentArena τ n) (slot : Fin n) :
    Plays fair arena (arena.rockContact timing touching slot) := by
  simp only [rockContact]
  split
  · exact damageShip_one_plays timing slot none
  · exact .refl _

omit touching in
theorem droneContact_plays (arena : AgentArena τ n) (slot : Fin n) (drone : Drone τ) :
    Plays fair arena (arena.droneContact timing slot drone) := by
  simp only [droneContact]
  cases drone.kind with
  | hunter =>
    have exploded : Plays fair arena (arena.destroyDrone drone none) :=
      destroyDrone_plays drone none fun _ _ same => nomatch same
    exact exploded.trans (damageShip_one_plays timing slot none)
  | gunship => exact damageShip_one_plays timing slot none

theorem droneContacts_plays (slot : Fin n) (drones : List (Drone τ)) (arena : AgentArena τ n) :
    Plays fair arena (droneContacts timing touching slot drones arena) := by
  induction drones generalizing arena with
  | nil => exact .refl _
  | cons drone rest ih =>
    simp only [droneContacts]
    split
    · split
      · exact (droneContact_plays timing arena slot drone).trans (ih _)
      · exact droneContact_plays timing arena slot drone
    · exact ih arena

omit [LinearOrder τ] [Zero τ] in
theorem takePickup_hull (ship : Ship τ) (kind : PickupKind) (high : ship.hull ≤ maxHull) :
    (takePickup ship kind).hull = ship.hull + ((takePickup ship kind).hull - ship.hull).toNat ∧
      (takePickup ship kind).hull ≤ maxHull := by
  cases kind with
  | shield => simpa [takePickup] using high
  | repair =>
    simp only [takePickup, maxHull] at high ⊢
    omega
  | bomb => simpa [takePickup] using high

omit [LinearOrder τ] [Zero τ] in
theorem takePickup_account (ship : Ship τ) (kind : PickupKind) (repaired : Nat) (high : ship.hull ≤ maxHull) :
    ((takePickup ship kind).countPickup.addScore .pickups Scoring.pickup).account
        (repaired + ((takePickup ship kind).hull - ship.hull).toNat) =
      (ship.account repaired).collect ((takePickup ship kind).hull - ship.hull).toNat := by
  have hull := (takePickup_hull ship kind high).1
  cases kind with
  | shield => simp [takePickup, Account.collect, Ship.account, Ship.addScore, Ship.countPickup, Account.credit]
  | repair =>
    simp only [Account.collect, Ship.account, Ship.addScore, Ship.countPickup, Account.credit] at hull ⊢
    rw [← hull]
    rfl
  | bomb => simp [takePickup, Account.collect, Ship.account, Ship.addScore, Ship.countPickup, Account.credit]

omit [LinearOrder τ] [Zero τ] in
theorem pickupContact_only (arena : AgentArena τ n) (slot : Fin n) (pickup : Pickup τ) :
    Only slot arena (pickupContact touching slot arena pickup) := by
  simp only [pickupContact]
  split
  · have alive : (takePickup (arena.ships slot) pickup.kind).alive = (arena.ships slot).alive := by
      cases pickup.kind <;> rfl
    refine ⟨fun other apart => put_ships_other _ _ apart, ?_, rfl⟩
    simpa [Ship.addScore, Ship.countPickup] using alive
  · exact .refl slot _

omit [LinearOrder τ] [Zero τ] in
theorem pickupContact_plays (arena : AgentArena τ n) (slot : Fin n) (pickup : Pickup τ)
    (living : (arena.ships slot).alive = true) :
    Plays fair arena (pickupContact touching slot arena pickup) := by
  simp only [pickupContact]
  split
  · intro sound other
    rw [account_put]
    split
    · next here =>
      subst here
      have high : (arena.ships other).hull ≤ maxHull := (sound other).hull_high
      obtain ⟨hull, room⟩ := takePickup_hull (arena.ships other) pickup.kind high
      simp only [Function.update_self]
      rw [takePickup_account _ _ _ high]
      refine .single (.collects _ living ?_)
      rw [hull] at room
      exact room
    · next apart =>
      simp only [account, Function.update_of_ne apart]
      exact .refl
  · exact .refl _

theorem shipContacts_plays (arena : AgentArena τ n) (slot : Fin n) :
    Plays fair arena (shipContacts timing touching arena slot) := by
  have rocks : Plays fair arena (arena.rockContact timing touching slot) :=
    rockContact_plays timing touching arena slot
  simp only [shipContacts]
  split
  · split
    · have drones := rocks.trans (droneContacts_plays timing touching slot
        (arena.rockContact timing touching slot).drones _)
      split
      · next living =>
        exact drones.trans (own_loop slot (pickupContact_plays touching · slot)
          (pickupContact_only touching · slot) _ living).1
      · exact drones
    · exact rocks
  · exact .refl _

end

theorem survive_plays {fair : Prop} (arena : AgentArena τ n) (slot : Fin n) :
    Plays fair arena (arena.survive slot) := by
  simp only [survive]
  split
  · next living =>
    have survived : Account.Path fair (arena.account slot) (arena.account slot).survive :=
      .single (.survives living)
    by_cases full : ((arena.ships slot).stats.aliveTicks + 1) % tickHz = 0
    · rw [if_pos full]
      refine .put slot fun _ => ?_
      have second : (arena.account slot).survive = _ := if_pos full
      rw [second] at survived
      exact survived
    · rw [if_neg full]
      refine .put slot fun _ => ?_
      have second : (arena.account slot).survive = _ := if_neg full
      rw [second] at survived
      exact survived
  · exact .refl _

end AgentArena

end SpaceApp.Arena
