import Mathlib.Data.Fintype.Basic
import Mathlib.Data.List.Sort
import SpaceApp.Arena.Scoring

/-! One round of the agent arena. The ships' motion is left out: what touches what within a tick
is an input of the tick, and the numbers of the timers are a parameter.
-/

set_option autoImplicit false

namespace SpaceApp.Arena

inductive ArenaMode where
  | championship
  | duel
  | sharedArena
  deriving DecidableEq

/-- The numbers timers are kept in: the subtraction of one tick, and the durations. -/
structure Timing (τ : Type) where
  lapse : τ → τ
  startImmunity : τ
  dashCooldown : τ
  dashImmunity : τ
  fireCooldown : τ
  shotLife : τ
  hitImmunity : τ
  shieldImmunity : τ
  bombImmunity : τ
  lunge : τ
  firstShot : τ
  fireEvery : τ
  boltLife : τ
  pickupTtl : τ

/-- Timers in sixtieths of a second, in which every duration is whole. -/
def sixtieths : Timing Int where
  lapse := fun left => left - 2
  startImmunity := 120
  dashCooldown := 240
  dashImmunity := 36
  fireCooldown := 12
  shotLife := 51
  hitImmunity := 72
  shieldImmunity := 60
  bombImmunity := 30
  lunge := 66
  firstShot := 84
  fireEvery := 126
  boltLife := 180
  pickupTtl := 540

structure Kills where
  rocks : Nat := 0
  drones : Nat := 0
  pilots : Nat := 0

structure PilotStats where
  score : Int := 0
  breakdown : ScoreBreakdown := {}
  kills : Kills := {}
  shotsFired : Nat := 0
  shotsHit : Nat := 0
  hullLost : Nat := 0
  shieldAbsorbed : Nat := 0
  pickups : Nat := 0
  aliveTicks : Nat := 0
  bombsUsed : Nat := 0
  dashesUsed : Nat := 0

structure Ship (τ : Type) where
  hull : Int
  shield : Nat
  bombs : Nat
  dashCooldown : τ
  fireCooldown : τ
  immunity : τ
  alive : Bool
  destroyedAtTick : Option Nat
  stats : PilotStats

structure Rock where
  id : Nat
  size : RockSize

structure Drone (τ : Type) where
  id : Nat
  kind : DroneKind
  hp : Int
  fireTimer : τ

/-- A shot of a ship, or with no owner a bolt of a drone. -/
structure Shot (τ : Type) (n : Nat) where
  id : Nat
  life : τ
  owner : Option (Fin n)

structure Pickup (τ : Type) where
  id : Nat
  kind : PickupKind
  ttl : τ

inductive SpawnKind where
  | drone (kind : DroneKind)
  | pickup (kind : Option PickupKind)

structure SpawnEvent where
  tick : Nat
  kind : SpawnKind

structure Scenario where
  initialRocks : Nat
  refills : Nat
  events : List SpawnEvent
  minRocks : Nat

structure ShipControls where
  fire : Bool := false
  dash : Bool := false
  bomb : Bool := false

/-- What the geometry decides within one tick, by the ids of the objects. Each test is made at
most once a tick. -/
structure Touching (n : Nat) where
  bombRock : Fin n → Nat → Bool
  bombDrone : Fin n → Nat → Bool
  bombShot : Fin n → Nat → Bool
  bombShip : Fin n → Fin n → Bool
  lungeRange : Nat → Bool
  fireRange : Nat → Bool
  shotShip : Nat → Fin n → Bool
  shotRock : Nat → Nat → Bool
  shotDrone : Nat → Nat → Bool
  shipRock : Fin n → Nat → Bool
  shipDrone : Fin n → Nat → Bool
  shipPickup : Fin n → Nat → Bool

structure AgentArena (τ : Type) (n : Nat) where
  mode : ArenaMode
  minRocks : Nat
  tick : Nat
  ships : Fin n → Ship τ
  rocks : List Rock
  drones : List (Drone τ)
  shots : List (Shot τ n)
  pickups : List (Pickup τ)
  isOver : Bool
  nextId : Nat
  refills : Nat
  events : List SpawnEvent
  /-- The hull points repairs gave back to each ship: kept to state what was really lost, and
  read by nothing. -/
  repaired : Fin n → Nat

def startShield : Nat := 2
def maxShield : Nat := 3
def startBombs : Nat := 1
def maxBombs : Nat := 2
def bombPilotDamage : Nat := 2
def roundTicks : Nat := 1350

def droneHp : DroneKind → Int
  | .hunter => 2
  | .gunship => 3

namespace Ship

variable {τ : Type}

def addScore (ship : Ship τ) (key : ScoreKey) (points : Int) : Ship τ :=
  { ship with
    stats :=
      { ship.stats with
        breakdown := ship.stats.breakdown.add key points
        score := totalScore (ship.stats.breakdown.add key points) } }

/-- The units of one hit, each on the shield while there is one; with the hull points they took. -/
def takeUnits : Nat → Ship τ → Ship τ × Nat
  | 0, ship => (ship, 0)
  | amount + 1, ship =>
      if 0 < ship.shield then
        takeUnits amount
          { ship with
            shield := ship.shield - 1
            stats := { ship.stats with shieldAbsorbed := ship.stats.shieldAbsorbed + 1 } }
      else
        let (hit, lost) := takeUnits amount { ship with hull := ship.hull - 1 }
        (hit, lost + 1)

def countHullLost (ship : Ship τ) (lost : Nat) : Ship τ :=
  if 0 < lost then
    addScore { ship with stats := { ship.stats with hullLost := ship.stats.hullLost + lost } }
      .damage (Scoring.hullLost * lost)
  else ship

def hit (timing : Timing τ) (amount : Nat) (ship : Ship τ) : Ship τ :=
  let (taken, lost) := ship.takeUnits amount
  { taken.countHullLost lost with
    immunity := if 0 < lost then timing.hitImmunity else timing.shieldImmunity }

def killsRock (ship : Ship τ) : Ship τ :=
  { ship with
    stats := { ship.stats with kills := { ship.stats.kills with rocks := ship.stats.kills.rocks + 1 } } }

def killsDrone (ship : Ship τ) : Ship τ :=
  { ship with
    stats := { ship.stats with kills := { ship.stats.kills with drones := ship.stats.kills.drones + 1 } } }

def killsPilot (ship : Ship τ) : Ship τ :=
  { ship with
    stats := { ship.stats with kills := { ship.stats.kills with pilots := ship.stats.kills.pilots + 1 } } }

def shotHit (ship : Ship τ) : Ship τ :=
  { ship with stats := { ship.stats with shotsHit := ship.stats.shotsHit + 1 } }

def countPickup (ship : Ship τ) : Ship τ :=
  { ship with stats := { ship.stats with pickups := ship.stats.pickups + 1 } }

end Ship

namespace AgentArena

variable {τ : Type} {n : Nat}

def put (arena : AgentArena τ n) (slot : Fin n) (ship : Ship τ) : AgentArena τ n :=
  { arena with ships := Function.update arena.ships slot ship }

def addScore (arena : AgentArena τ n) (slot : Fin n) (key : ScoreKey) (points : Int) : AgentArena τ n :=
  arena.put slot ((arena.ships slot).addScore key points)

def pvp (arena : AgentArena τ n) : Bool :=
  arena.mode = .sharedArena ∧ 1 < n

def spawnRock (arena : AgentArena τ n) (size : RockSize) : AgentArena τ n :=
  if 40 ≤ arena.rocks.length then arena
  else { arena with rocks := arena.rocks ++ [⟨arena.nextId, size⟩], nextId := arena.nextId + 1 }

def start (timing : Timing τ) [Zero τ] (mode : ArenaMode) (scenario : Scenario) : AgentArena τ n :=
  (List.range scenario.initialRocks).foldl (fun arena _ => arena.spawnRock .large)
    { mode := mode
      minRocks := scenario.minRocks
      tick := 0
      ships := fun _ =>
        { hull := maxHull
          shield := startShield
          bombs := startBombs
          dashCooldown := 0
          fireCooldown := 0
          immunity := timing.startImmunity
          alive := true
          destroyedAtTick := none
          stats := {} }
      rocks := []
      drones := []
      shots := []
      pickups := []
      isOver := false
      nextId := 1
      refills := scenario.refills
      events := scenario.events
      repaired := fun _ => 0 }

def spawn (timing : Timing τ) [Zero τ] (arena : AgentArena τ n) (kind : SpawnKind) : AgentArena τ n :=
  match kind with
  | .pickup kind =>
      if arena.pickups.length < 4 then
        { arena with
          pickups := arena.pickups ++ [⟨arena.nextId, kind.getD .shield, timing.pickupTtl⟩]
          nextId := arena.nextId + 1 }
      else arena
  | .drone kind =>
      if 14 ≤ arena.drones.length then arena
      else
        let fireTimer := match kind with
          | .gunship => timing.firstShot
          | .hunter => 0
        { arena with
          drones := arena.drones ++ [⟨arena.nextId, kind, droneHp kind, fireTimer⟩]
          nextId := arena.nextId + 1 }

def runEvents (timing : Timing τ) [Zero τ] : List SpawnEvent → AgentArena τ n → AgentArena τ n
  | [], arena => { arena with events := [] }
  | event :: rest, arena =>
      if event.tick ≤ arena.tick then runEvents timing rest (arena.spawn timing event.kind)
      else { arena with events := event :: rest }

def runScenario (timing : Timing τ) [Zero τ] (arena : AgentArena τ n) : AgentArena τ n :=
  let arena := runEvents timing arena.events arena
  if arena.rocks.length < arena.minRocks ∧ 0 < arena.refills then
    { arena with refills := arena.refills - 1 }.spawnRock .large
  else arena

def reward (arena : AgentArena τ n) (slot : Fin n) (attacker : Option (Fin n)) (gain : Ship τ → Ship τ) :
    AgentArena τ n :=
  match attacker with
  | some other =>
      if other ≠ slot ∧ (arena.ships other).alive = true then arena.put other (gain (arena.ships other))
      else arena
  | none => arena

def destroyShip (arena : AgentArena τ n) (slot : Fin n) (attacker : Option (Fin n)) : AgentArena τ n :=
  (arena.put slot
    { arena.ships slot with
      alive := false
      hull := 0
      destroyedAtTick := some arena.tick }).reward slot attacker
    fun ship => ship.killsPilot.addScore .pilots Scoring.pilotKill

/-- The check of a hit: only a living ship without immunity is hit. -/
def lands [LinearOrder τ] [Zero τ] (arena : AgentArena τ n) (slot : Fin n) : Bool :=
  (arena.ships slot).alive ∧ ¬0 < (arena.ships slot).immunity

def damageShip (timing : Timing τ) [LinearOrder τ] [Zero τ] (arena : AgentArena τ n) (slot : Fin n)
    (amount : Nat) (attacker : Option (Fin n)) : AgentArena τ n :=
  if arena.lands slot then
    let arena := (arena.put slot ((arena.ships slot).hit timing amount)).reward slot attacker
      fun ship => ship.addScore .pilots Scoring.pilotHit
    if (arena.ships slot).hull ≤ 0 then arena.destroyShip slot attacker else arena
  else arena

def splitRock (arena : AgentArena τ n) (size : RockSize) : AgentArena τ n :=
  match size with
  | .large => (arena.spawnRock .medium).spawnRock .medium
  | .medium => (arena.spawnRock .small).spawnRock .small
  | .small => arena

def destroyRock (arena : AgentArena τ n) (rock : Rock) (slot : Option (Fin n)) (split : Bool) :
    AgentArena τ n :=
  if arena.rocks.any (fun other => other.id = rock.id) then
    let arena := { arena with rocks := arena.rocks.eraseP (fun other => other.id = rock.id) }
    let arena := match slot with
      | some slot =>
          arena.put slot ((arena.ships slot).killsRock.addScore .rocks (Scoring.rock rock.size))
      | none => arena
    if split then arena.splitRock rock.size else arena
  else arena

def destroyDrone (arena : AgentArena τ n) (drone : Drone τ) (slot : Option (Fin n)) : AgentArena τ n :=
  if arena.drones.any (fun other => other.id = drone.id) then
    let arena := { arena with drones := arena.drones.eraseP (fun other => other.id = drone.id) }
    match slot with
    | some slot =>
        arena.put slot ((arena.ships slot).killsDrone.addScore .drones (Scoring.drone drone.kind))
    | none => arena
  else arena

section

variable (timing : Timing τ) [LinearOrder τ] [Zero τ] (touching : Touching n)

/-- The ship a bomb is set off by is marked, before the bomb reaches the others. -/
def armBomb (arena : AgentArena τ n) (slot : Fin n) : AgentArena τ n :=
  let ship := arena.ships slot
  arena.put slot
    { ship with
      bombs := ship.bombs - 1
      immunity := max ship.immunity timing.bombImmunity
      stats := { ship.stats with bombsUsed := ship.stats.bombsUsed + 1 } }

def bombRock (slot : Fin n) (arena : AgentArena τ n) (rock : Rock) : AgentArena τ n :=
  if touching.bombRock slot rock.id then arena.destroyRock rock (some slot) false else arena

def bombDrone (slot : Fin n) (arena : AgentArena τ n) (drone : Drone τ) : AgentArena τ n :=
  if touching.bombDrone slot drone.id then arena.destroyDrone drone (some slot) else arena

def bombShip (slot : Fin n) (arena : AgentArena τ n) (other : Fin n) : AgentArena τ n :=
  if other ≠ slot ∧ (arena.ships other).alive = true ∧ touching.bombShip slot other = true then
    arena.damageShip timing other bombPilotDamage (some slot)
  else arena

def bombObjects (arena : AgentArena τ n) (slot : Fin n) : AgentArena τ n :=
  let arena := arena.armBomb timing slot
  let arena := arena.rocks.foldl (bombRock touching slot) arena
  let arena := arena.drones.foldl (bombDrone touching slot) arena
  { arena with
    shots := arena.shots.filter fun shot => shot.owner.isSome || !touching.bombShot slot shot.id }

def detonateBomb (arena : AgentArena τ n) (slot : Fin n) : AgentArena τ n :=
  let arena := arena.bombObjects timing touching slot
  if arena.pvp then (List.finRange n).foldl (bombShip timing touching slot) arena else arena

def steer (arena : AgentArena τ n) (slot : Fin n) (controls : ShipControls) : AgentArena τ n :=
  let ship := arena.ships slot
  let ship :=
    { ship with
      immunity := max 0 (timing.lapse ship.immunity)
      dashCooldown := max 0 (timing.lapse ship.dashCooldown)
      fireCooldown := max 0 (timing.lapse ship.fireCooldown) }
  if controls.dash = true ∧ ship.dashCooldown ≤ 0 then
    arena.put slot
      { ship with
        dashCooldown := timing.dashCooldown
        immunity := max ship.immunity timing.dashImmunity
        stats := { ship.stats with dashesUsed := ship.stats.dashesUsed + 1 } }
  else arena.put slot ship

def fire (arena : AgentArena τ n) (slot : Fin n) (controls : ShipControls) : AgentArena τ n :=
  let ship := arena.ships slot
  if controls.fire = true ∧ ship.fireCooldown ≤ 0 ∧ arena.shots.length < 160 then
    let arena := arena.put slot
      { ship with
        fireCooldown := timing.fireCooldown
        stats := { ship.stats with shotsFired := ship.stats.shotsFired + 1 } }
    { arena with
      shots := arena.shots ++ [⟨arena.nextId, timing.shotLife, some slot⟩]
      nextId := arena.nextId + 1 }
  else arena

def bombs (arena : AgentArena τ n) (slot : Fin n) (controls : ShipControls) : AgentArena τ n :=
  if controls.bomb = true ∧ 0 < (arena.ships slot).bombs then arena.detonateBomb timing touching slot
  else arena

def stepShip (arena : AgentArena τ n) (slot : Fin n) (controls : ShipControls) : AgentArena τ n :=
  ((arena.steer timing slot controls).bombs timing touching slot controls).fire timing slot controls

def someAlive (arena : AgentArena τ n) : Bool :=
  (List.finRange n).any fun slot => (arena.ships slot).alive

/-- A drone's turn: hunters commit to lunges, gunships fire bolts. -/
def stepDrone (arena : AgentArena τ n) (drone : Drone τ) : AgentArena τ n :=
  match drone.kind with
  | .hunter =>
      let drone :=
        if 0 < drone.fireTimer then { drone with fireTimer := timing.lapse drone.fireTimer }
        else if arena.someAlive && touching.lungeRange drone.id then
          { drone with fireTimer := timing.lunge }
        else drone
      { arena with drones := arena.drones ++ [drone] }
  | .gunship =>
      if arena.someAlive then
        let fireTimer := timing.lapse drone.fireTimer
        if fireTimer ≤ 0 ∧ touching.fireRange drone.id = true ∧ arena.shots.length < 160 then
          { arena with
            drones := arena.drones ++ [{ drone with fireTimer := timing.fireEvery }]
            shots := arena.shots ++ [⟨arena.nextId, timing.boltLife, none⟩]
            nextId := arena.nextId + 1 }
        else { arena with drones := arena.drones ++ [{ drone with fireTimer := fireTimer }] }
      else { arena with drones := arena.drones ++ [drone] }

def stepDrones (arena : AgentArena τ n) : AgentArena τ n :=
  arena.drones.foldl (stepDrone timing touching) { arena with drones := [] }

def flyBolt (arena : AgentArena τ n) (shot : Shot τ n) : AgentArena τ n × Shot τ n :=
  match (List.finRange n).find? fun slot => (arena.ships slot).alive && touching.shotShip shot.id slot with
  | some slot => (arena.damageShip timing slot 1 none, { shot with life := 0 })
  | none => (arena, shot)

def countHit (arena : AgentArena τ n) (owner : Fin n) : AgentArena τ n :=
  arena.put owner (arena.ships owner).shotHit

def hitDrone (arena : AgentArena τ n) (drone : Drone τ) (owner : Fin n) : AgentArena τ n :=
  let hit := { drone with hp := drone.hp - 1 }
  let arena :=
    { arena with drones := arena.drones.map fun other => if other.id = drone.id then hit else other }
  if hit.hp ≤ 0 then arena.destroyDrone hit (some owner) else arena

/-- A ship's shot flies: a rock stops it first, then a drone, then another pilot. -/
def flyLaser (arena : AgentArena τ n) (shot : Shot τ n) (owner : Fin n) : AgentArena τ n × Shot τ n :=
  match arena.rocks.find? fun rock => touching.shotRock shot.id rock.id with
  | some rock => ((arena.countHit owner).destroyRock rock (some owner) true, { shot with life := 0 })
  | none =>
      match arena.drones.find? fun drone => touching.shotDrone shot.id drone.id with
      | some drone => ((arena.countHit owner).hitDrone drone owner, { shot with life := 0 })
      | none =>
          if arena.pvp then
            match (List.finRange n).find? fun slot =>
              slot ≠ owner && (arena.ships slot).alive && touching.shotShip shot.id slot with
            | some slot => ((arena.countHit owner).damageShip timing slot 1 (some owner), { shot with life := 0 })
            | none => (arena, shot)
          else (arena, shot)

def flyShot (arena : AgentArena τ n) (shot : Shot τ n) : AgentArena τ n × Shot τ n :=
  let shot := { shot with life := timing.lapse shot.life }
  if shot.life ≤ 0 then (arena, shot)
  else match shot.owner with
    | none => arena.flyBolt timing touching shot
    | some owner => arena.flyLaser timing touching shot owner

def stepShot (arena : AgentArena τ n) (shot : Shot τ n) : AgentArena τ n :=
  let (arena, shot) := arena.flyShot timing touching shot
  { arena with shots := arena.shots ++ [shot] }

def stepShots (arena : AgentArena τ n) : AgentArena τ n :=
  let arena := arena.shots.foldl (stepShot timing touching) { arena with shots := [] }
  { arena with shots := arena.shots.filter fun shot => 0 < shot.life }

def rockContact (arena : AgentArena τ n) (slot : Fin n) : AgentArena τ n :=
  match arena.rocks.find? fun rock => touching.shipRock slot rock.id with
  | some _ => arena.damageShip timing slot 1 none
  | none => arena

/-- Hunters explode on contact and score nothing for anyone. -/
def droneContact (arena : AgentArena τ n) (slot : Fin n) (drone : Drone τ) : AgentArena τ n :=
  match drone.kind with
  | .hunter => (arena.destroyDrone drone none).damageShip timing slot 1 none
  | .gunship => arena.damageShip timing slot 1 none

def droneContacts (slot : Fin n) : List (Drone τ) → AgentArena τ n → AgentArena τ n
  | [], arena => arena
  | drone :: rest, arena =>
      if touching.shipDrone slot drone.id then
        let arena := arena.droneContact timing slot drone
        if (arena.ships slot).alive then droneContacts slot rest arena else arena
      else droneContacts slot rest arena

def takePickup (ship : Ship τ) (kind : PickupKind) : Ship τ :=
  match kind with
  | .shield => { ship with shield := min maxShield (ship.shield + 1) }
  | .repair => { ship with hull := min maxHull (ship.hull + 1) }
  | .bomb => { ship with bombs := min maxBombs (ship.bombs + 1) }

def pickupContact (slot : Fin n) (arena : AgentArena τ n) (pickup : Pickup τ) : AgentArena τ n :=
  if touching.shipPickup slot pickup.id then
    let ship := arena.ships slot
    let taken := takePickup ship pickup.kind
    let arena :=
      { arena with
        pickups := arena.pickups.eraseP fun other => other.id = pickup.id
        repaired := Function.update arena.repaired slot
          (arena.repaired slot + (taken.hull - ship.hull).toNat) }
    arena.put slot (taken.countPickup.addScore .pickups Scoring.pickup)
  else arena

def shipContacts (arena : AgentArena τ n) (slot : Fin n) : AgentArena τ n :=
  if (arena.ships slot).alive then
    let arena := arena.rockContact timing touching slot
    if (arena.ships slot).alive then
      let arena := droneContacts timing touching slot arena.drones arena
      if (arena.ships slot).alive then arena.pickups.foldl (pickupContact touching slot) arena
      else arena
    else arena
  else arena

def stepContacts (arena : AgentArena τ n) : AgentArena τ n :=
  (List.finRange n).foldl (shipContacts timing touching) arena

def survive (arena : AgentArena τ n) (slot : Fin n) : AgentArena τ n :=
  let ship := arena.ships slot
  if ship.alive then
    let next := { ship with stats := { ship.stats with aliveTicks := ship.stats.aliveTicks + 1 } }
    if next.stats.aliveTicks % tickHz = 0 then
      arena.put slot (next.addScore .survival Scoring.survivalPerSecond)
    else arena.put slot next
  else arena

end

/-- Survivors by score, then the destroyed by how long they lasted. -/
def placementOrder (arena : AgentArena τ n) : List (Fin n) :=
  let score := fun slot => (arena.ships slot).stats.score
  let lasted := fun slot => (arena.ships slot).destroyedAtTick.getD 0
  let survivors := (List.finRange n).filter fun slot => (arena.ships slot).alive
  let destroyed := (List.finRange n).filter fun slot => !(arena.ships slot).alive
  survivors.insertionSort (fun left right =>
      score right < score left ∨ score left = score right ∧ left ≤ right) ++
    destroyed.insertionSort (fun left right =>
      lasted right < lasted left ∨ lasted left = lasted right ∧
        (score right < score left ∨ score left = score right ∧ left ≤ right))

def award (arena : AgentArena τ n) (ranked : Fin n × Nat) : AgentArena τ n :=
  let bonus := Scoring.placement.getD ranked.2 0
  if 0 < bonus then arena.addScore ranked.1 .placement bonus else arena

def finish (arena : AgentArena τ n) : AgentArena τ n :=
  let arena := { arena with isOver := true }
  if arena.pvp = false ∧ arena.mode ≠ .sharedArena then arena
  else arena.placementOrder.zipIdx.foldl award arena

section

variable (timing : Timing τ) [LinearOrder τ] [Zero τ] (controls : Fin n → Option ShipControls)
  (touching : Touching n)

def pilotTurn (arena : AgentArena τ n) (slot : Fin n) : AgentArena τ n :=
  if (arena.ships slot).alive then arena.stepShip timing touching slot ((controls slot).getD {}) else arena

def opening (arena : AgentArena τ n) : AgentArena τ n :=
  ((List.finRange n).foldl (pilotTurn timing controls touching) (arena.runScenario timing)).stepDrones
    timing touching

def passTick (arena : AgentArena τ n) : AgentArena τ n :=
  { arena with
    pickups := (arena.pickups.map fun pickup => { pickup with ttl := timing.lapse pickup.ttl }).filter
      fun pickup => 0 < pickup.ttl
    tick := arena.tick + 1 }

def play (arena : AgentArena τ n) : AgentArena τ n :=
  let arena := ((arena.opening timing controls touching).stepShots timing touching).stepContacts timing touching
  (List.finRange n).foldl survive (arena.passTick timing)

def aliveShips (arena : AgentArena τ n) : List (Fin n) :=
  (List.finRange n).filter fun slot => (arena.ships slot).alive

def step (arena : AgentArena τ n) : AgentArena τ n :=
  if arena.isOver then arena
  else
    let arena := arena.play timing controls touching
    let alive := arena.aliveShips.length
    if roundTicks ≤ arena.tick ∨ alive = 0 ∨ (arena.pvp = true ∧ alive ≤ 1) then arena.finish else arena

end

end AgentArena

end SpaceApp.Arena
