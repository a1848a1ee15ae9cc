import Mathlib.Logic.Relation

/-! The score of an arena pilot, and the account a pilot keeps over a round: what may happen to
it, and what stays right whatever happens.
-/

set_option autoImplicit false

namespace SpaceApp.Arena

inductive RockSize where
  | small
  | medium
  | large
  deriving DecidableEq

inductive DroneKind where
  | hunter
  | gunship
  deriving DecidableEq

inductive PickupKind where
  | shield
  | repair
  | bomb
  deriving DecidableEq

structure ScoreBreakdown where
  rocks : Int := 0
  drones : Int := 0
  pilots : Int := 0
  pickups : Int := 0
  survival : Int := 0
  damage : Int := 0
  placement : Int := 0
  deriving DecidableEq

inductive ScoreKey where
  | rocks
  | drones
  | pilots
  | pickups
  | survival
  | damage
  | placement
  deriving DecidableEq

def ScoreBreakdown.add (breakdown : ScoreBreakdown) (key : ScoreKey) (points : Int) : ScoreBreakdown :=
  match key with
  | .rocks => { breakdown with rocks := breakdown.rocks + points }
  | .drones => { breakdown with drones := breakdown.drones + points }
  | .pilots => { breakdown with pilots := breakdown.pilots + points }
  | .pickups => { breakdown with pickups := breakdown.pickups + points }
  | .survival => { breakdown with survival := breakdown.survival + points }
  | .damage => { breakdown with damage := breakdown.damage + points }
  | .placement => { breakdown with placement := breakdown.placement + points }

def totalScore (breakdown : ScoreBreakdown) : Int :=
  breakdown.rocks + breakdown.drones + breakdown.pilots + breakdown.pickups + breakdown.survival +
    breakdown.damage + breakdown.placement

namespace Scoring

def rock : RockSize → Int
  | .large => 10
  | .medium => 25
  | .small => 50

def drone : DroneKind → Int
  | .hunter => 200
  | .gunship => 350

def pilotHit : Int := 75
def pilotKill : Int := 600
def pickup : Int := 75
def survivalPerSecond : Int := 10
def hullLost : Int := -150
def placement : List Int := [600, 300, 150]

end Scoring

def maxHull : Int := 5
def tickHz : Nat := 30

structure Account where
  hull : Int
  alive : Bool
  score : Int
  breakdown : ScoreBreakdown
  droneKills : Nat
  pickups : Nat
  aliveTicks : Nat
  repaired : Nat

namespace Account

def fresh : Account where
  hull := maxHull
  alive := true
  score := 0
  breakdown := {}
  droneKills := 0
  pickups := 0
  aliveTicks := 0
  repaired := 0

def credit (account : Account) (key : ScoreKey) (points : Int) : Account :=
  { account with
    breakdown := account.breakdown.add key points
    score := totalScore (account.breakdown.add key points) }

def struck (account : Account) (lost : Nat) : Account :=
  { account.credit .damage (Scoring.hullLost * lost) with hull := account.hull - lost }

def hurt (account : Account) (lost : Nat) : Account :=
  if (account.struck lost).hull ≤ 0 then
    { account.struck lost with
      alive := false
      hull := 0 }
  else account.struck lost

def collect (account : Account) (given : Nat) : Account :=
  { account.credit .pickups Scoring.pickup with
    hull := account.hull + given
    repaired := account.repaired + given
    pickups := account.pickups + 1 }

def down (account : Account) (kind : DroneKind) : Account :=
  { account.credit .drones (Scoring.drone kind) with droneKills := account.droneKills + 1 }

def survive (account : Account) : Account :=
  let next := { account with aliveTicks := account.aliveTicks + 1 }
  if (account.aliveTicks + 1) % tickHz = 0 then next.credit .survival Scoring.survivalPerSecond else next

/-- What may happen to an account within a tick. Where play is fair, a destroyed ship gains
nothing and no hit takes more hull than there is. -/
inductive Moved (fair : Prop) (account : Account) : Account → Prop where
  | gains (key : ScoreKey) (points : Int) (of_play : key = .rocks ∨ key = .pilots)
      (guard : fair → account.alive = true) : Moved fair account (account.credit key points)
  | downs (kind : DroneKind) (guard : fair → account.alive = true) : Moved fair account (account.down kind)
  | hurts (lost : Nat) (some_lost : 0 < lost) (alive : account.alive = true)
      (guard : fair → (lost : Int) ≤ account.hull) : Moved fair account (account.hurt lost)
  | collects (given : Nat) (alive : account.alive = true) (room : account.hull + given ≤ maxHull) :
      Moved fair account (account.collect given)
  | survives (alive : account.alive = true) : Moved fair account account.survive

/-- What may happen to an account over a stretch of play. -/
def Path (fair : Prop) : Account → Account → Prop :=
  Relation.ReflTransGen (Moved fair)

structure Counted (account : Account) : Prop where
  hull_low : 0 ≤ account.hull
  hull_high : account.hull ≤ maxHull
  alive_iff : account.alive = true ↔ 0 < account.hull
  score_eq : account.score = totalScore account.breakdown
  pickups_eq : account.breakdown.pickups = Scoring.pickup * account.pickups
  drones_eq : ∃ hunters gunships : Nat, hunters + gunships = account.droneKills ∧
    account.breakdown.drones = Scoring.drone .hunter * hunters + Scoring.drone .gunship * gunships
  survival_eq : account.breakdown.survival = Scoring.survivalPerSecond * (account.aliveTicks / tickHz : Nat)

/-- The damage entry counts the hull points really lost. -/
def DamageTrue (account : Account) : Prop :=
  account.breakdown.damage = Scoring.hullLost * (maxHull + account.repaired - account.hull)

section

variable {fair : Prop} {account after : Account}

theorem fresh_counted : fresh.Counted where
  hull_low := by decide
  hull_high := by decide
  alive_iff := by decide
  score_eq := by decide
  pickups_eq := by decide
  drones_eq := ⟨0, 0, by decide, by decide⟩
  survival_eq := by decide

theorem fresh_damageTrue : fresh.DamageTrue := by
  unfold DamageTrue
  decide

section
variable (counted : account.Counted)

include counted

theorem Counted.gains {key : ScoreKey} (points : Int)
    (of_play : key = .rocks ∨ key = .pilots ∨ key = .placement) : (account.credit key points).Counted := by
  obtain ⟨low, high, alive, _, pickups, drones, survival⟩ := counted
  rcases of_play with rfl | rfl | rfl <;> exact ⟨low, high, alive, rfl, pickups, drones, survival⟩

theorem Counted.downs (kind : DroneKind) : (account.down kind).Counted := by
  obtain ⟨low, high, alive, _, pickups, ⟨hunters, gunships, count, drones⟩, survival⟩ := counted
  refine ⟨low, high, alive, rfl, pickups, ?_, survival⟩
  cases kind with
  | hunter =>
    refine ⟨hunters + 1, gunships, ?_, ?_⟩
    · simp only [down]
      omega
    · simp only [down, credit, ScoreBreakdown.add, drones]
      push_cast
      simp only [Scoring.drone]
      omega
  | gunship =>
    refine ⟨hunters, gunships + 1, ?_, ?_⟩
    · simp only [down]
      omega
    · simp only [down, credit, ScoreBreakdown.add, drones]
      push_cast
      simp only [Scoring.drone]
      omega

theorem Counted.hurts (living : account.alive = true) (lost : Nat) : (account.hurt lost).Counted := by
  obtain ⟨low, high, alive, _, pickups, drones, survival⟩ := counted
  simp only [hurt]
  split
  · exact ⟨by simp, by simp [maxHull], by simp, rfl, pickups, drones, survival⟩
  · next left =>
    simp only [struck] at left
    refine ⟨?_, ?_, ?_, rfl, pickups, drones, survival⟩
    · simp only [struck]
      omega
    · simp only [struck]
      omega
    · simp only [struck]
      exact ⟨fun _ => by omega, fun _ => living⟩

theorem Counted.collects {given : Nat} (living : account.alive = true)
    (room : account.hull + given ≤ maxHull) : (account.collect given).Counted := by
  obtain ⟨low, high, alive, _, pickups, drones, survival⟩ := counted
  have some_hull := alive.mp living
  refine ⟨?_, room, ?_, rfl, ?_, drones, survival⟩
  · simp only [collect]
    omega
  · simp only [collect]
    exact ⟨fun _ => by omega, fun _ => living⟩
  · simp only [collect, credit, ScoreBreakdown.add, pickups, Scoring.pickup]
    push_cast
    omega

theorem Counted.survives : account.survive.Counted := by
  obtain ⟨low, high, alive, score, pickups, drones, survival⟩ := counted
  simp only [survive]
  split
  · next full =>
    -- A whole second more: the entry and the quotient both grow by one second.
    refine ⟨low, high, alive, rfl, pickups, drones, ?_⟩
    simp only [credit, ScoreBreakdown.add, survival, Scoring.survivalPerSecond, tickHz] at full ⊢
    have second : (account.aliveTicks + 1) / 30 = account.aliveTicks / 30 + 1 := by omega
    rw [second]
    push_cast
    omega
  · next part =>
    refine ⟨low, high, alive, score, pickups, drones, ?_⟩
    simp only [survival, tickHz] at part ⊢
    have second : (account.aliveTicks + 1) / 30 = account.aliveTicks / 30 := by omega
    rw [second]

end

theorem Moved.counted (moved : Moved fair account after) (counted : account.Counted) : after.Counted := by
  cases moved with
  | gains key points of_play _ => exact counted.gains points (by rcases of_play with rfl | rfl <;> simp)
  | downs kind _ => exact counted.downs kind
  | hurts lost _ alive _ => exact counted.hurts alive lost
  | collects given alive room => exact counted.collects alive room
  | survives _ => exact counted.survives

theorem DamageTrue.hurts (damage : account.DamageTrue) {lost : Nat} (covered : (lost : Int) ≤ account.hull) :
    (account.hurt lost).DamageTrue := by
  simp only [DamageTrue, Scoring.hullLost] at damage
  simp only [hurt]
  split
  · next none_left =>
    simp only [struck] at none_left
    simp only [DamageTrue, struck, credit, ScoreBreakdown.add, Scoring.hullLost, damage]
    omega
  · simp only [DamageTrue, struck, credit, ScoreBreakdown.add, Scoring.hullLost, damage]
    omega

theorem Moved.damageTrue (moved : Moved True account after) (damage : account.DamageTrue) : after.DamageTrue := by
  cases moved with
  | gains key points of_play _ =>
    rcases of_play with rfl | rfl <;> exact damage
  | downs kind _ => exact damage
  | hurts lost _ _ guard => exact damage.hurts (guard trivial)
  | collects given _ _ =>
    simp only [DamageTrue, collect, credit, ScoreBreakdown.add] at damage ⊢
    rw [damage]
    push_cast
    congr 1
    omega
  | survives _ =>
    simp only [survive]
    split <;> exact damage

theorem Moved.placement_eq (moved : Moved fair account after) :
    after.breakdown.placement = account.breakdown.placement := by
  cases moved with
  | gains key points of_play _ => rcases of_play with rfl | rfl <;> rfl
  | downs kind _ => rfl
  | hurts lost _ _ _ =>
    simp only [hurt]
    split <;> rfl
  | collects given _ _ => rfl
  | survives _ =>
    simp only [survive]
    split <;> rfl

theorem Moved.alive (moved : Moved True account after) : account.alive = true := by
  cases moved with
  | gains _ _ _ guard => exact guard trivial
  | downs _ guard => exact guard trivial
  | hurts _ _ alive _ => exact alive
  | collects _ alive _ => exact alive
  | survives alive => exact alive

theorem Path.keeps (path : Path fair account after) (kept : Account → Prop)
    (step : ∀ {before after}, Moved fair before after → kept before → kept after)
    (start : kept account) : kept after := by
  induction path with
  | refl => exact start
  | tail _ moved ih => exact step moved ih

theorem Path.placement_eq (path : Path fair account after) : after.breakdown.placement = account.breakdown.placement :=
  path.keeps (fun next => next.breakdown.placement = account.breakdown.placement)
    (fun moved same => moved.placement_eq.trans same) rfl

/-- In fair play nothing happens to the account of a destroyed ship. -/
theorem Path.rests (path : Path True account after) (dead : account.alive = false) : after = account := by
  induction path with
  | refl => rfl
  | tail _ moved ih =>
    rw [ih] at moved
    exact absurd moved.alive (by simp [dead])

end

end Account

end SpaceApp.Arena
