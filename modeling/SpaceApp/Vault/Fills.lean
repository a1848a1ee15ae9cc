import SpaceApp.Foundation.Reach
import SpaceApp.Foundation.Tokens
import SpaceApp.Vault.Provenance

/-! Fills stay inside what the operator delegated, in every run. -/

set_option autoImplicit false

namespace SpaceApp.Vault

open SpaceApp.Foundation

section

variable {platform : Platform} {signed : List OperatorSignature} {broker after : Broker} {request : VaultRequest}
  {before : Option Task} {moment : Moment} {world later : World} {event : Event}

def heldNonce : Task → Option Nat
  | .fillOpening _ claims => some claims.nonce
  | _ => none

def filledCapability (call : Call) : Option VaultUseClaims :=
  match call.request, call.answer with
  | .fill input, .filled _ _ => some input.capability.claims
  | _, _ => none

def filledNonce (call : Call) : Option Nat := (filledCapability call).map (·.nonce)

/-- Nonces are drawn, put out, held by one fill, and then spent. -/
structure Nonces (world : World) : Prop where
  outstanding : ∀ nonce claims, world.broker.outstanding nonce = some claims → nonce < world.broker.nonces
  held : ∀ name running nonce, world.running name = some running → heldNonce running.task = some nonce →
    nonce < world.broker.nonces ∧ world.broker.outstanding nonce = none
  spent : ∀ call ∈ world.history, ∀ nonce, filledNonce call = some nonce →
    nonce < world.broker.nonces ∧ world.broker.outstanding nonce = none
  spending : Spending (fun running : Running => heldNonce running.task) filledNonce world.running world.history

theorem waits_nonces {task : Task} (piece : Piece platform signed broker request before moment (.waits task) after) :
    (heldNonce task = none ∧ after.nonces = broker.nonces ∧ after.outstanding = broker.outstanding) ∨
    (heldNonce task = none ∧ ∃ claims now, claims.nonce = broker.nonces ∧ after = addOutstanding broker claims now) ∨
    ∃ nonce claims, heldNonce task = some nonce ∧ broker.outstanding nonce = some claims ∧ after.nonces = broker.nonces ∧
      after.outstanding = Function.update broker.outstanding nonce none := by
  cases piece with
  | delegateSealed => exact .inl ⟨rfl, raiseFloor_same.nonces, raiseFloor_same.outstanding⟩
  | useVerified member scope listed covers => exact .inr (.inl ⟨rfl, _, _, rfl, rfl⟩)
  | fillVerified member same known current => exact .inr (.inr ⟨_, _, rfl, known, rfl, rfl⟩)
  | _ => exact .inl ⟨rfl, rfl, rfl⟩

/-- An answered piece draws no nonce, and puts none out. -/
theorem answers_nonces {answer : VaultAnswer} (piece : Piece platform signed broker request before moment (.answers answer) after) :
    after.nonces = broker.nonces ∧
      ∀ nonce claims, after.outstanding nonce = some claims → broker.outstanding nonce = some claims := by
  cases piece with
  | revoke =>
    refine ⟨raiseFloor_same.nonces, ?_⟩
    intro nonce claims found
    rw [revoke_outstanding] at found
    exact (Option.filter_eq_some_iff.mp found).1
  | signupRevoke =>
    obtain ⟨_, _, same⟩ := signupRevoke_rest _
    rw [same]
    exact ⟨rfl, fun _ _ => id⟩
  | fillSpent spent reason =>
    exact ⟨rfl, kept_without (fun _ _ => id) _⟩
  | _ => exact ⟨rfl, fun _ _ => id⟩

theorem none_of_shrinks {outstanding shrunk : Nat → Option VaultUseClaims}
    (shrinks : ∀ nonce claims, shrunk nonce = some claims → outstanding nonce = some claims) {nonce : Nat}
    (gone : outstanding nonce = none) : shrunk nonce = none := by
  cases found : shrunk nonce with
  | none => rfl
  | some claims =>
    rw [shrinks nonce claims found] at gone
    cases gone

/-- The nonces that were out or gone stay so while the broker draws more. -/
theorem Nonces.settle (nonces : Nonces world) {running : Nat → Option Running} {steps : Nat}
    (fewer : ∀ name item nonce, running name = some item → heldNonce item.task = some nonce →
      world.running name = some item)
    (drawn : ∀ nonce claims, after.outstanding nonce = some claims → nonce < after.nonces)
    (kept : ∀ nonce, nonce < world.broker.nonces → world.broker.outstanding nonce = none → after.outstanding nonce = none)
    (more : world.broker.nonces ≤ after.nonces)
    (spending : Spending (fun running : Running => heldNonce running.task) filledNonce running world.history) :
    Nonces { world with broker := after, running, steps } where
  outstanding := drawn
  held := by
    intro name item nonce found holds
    obtain ⟨below, gone⟩ := nonces.held name item nonce (fewer name item nonce found holds) holds
    exact ⟨Nat.lt_of_lt_of_le below more, kept nonce below gone⟩
  spent := by
    intro call member nonce paid
    obtain ⟨below, gone⟩ := nonces.spent call member nonce paid
    exact ⟨Nat.lt_of_lt_of_le below more, kept nonce below gone⟩
  spending := spending

theorem Nonces.unheld {name steps : Nat} {replaced : Option Running} (nonces : Nonces world)
    (free : ∀ item, replaced = some item → heldNonce item.task = none)
    (drawn : ∀ nonce claims, after.outstanding nonce = some claims → nonce < after.nonces)
    (kept : ∀ nonce, nonce < world.broker.nonces → world.broker.outstanding nonce = none → after.outstanding nonce = none)
    (more : world.broker.nonces ≤ after.nonces) :
    Nonces { world with broker := after, running := Function.update world.running name replaced, steps } :=
  nonces.settle (fun _ _ _ found holds => (held_elsewhere free found holds).2) drawn kept more
    (nonces.spending.replace free)

theorem Nonces.hold {name steps nonce : Nat} {claims : VaultUseClaims} {running : Running} (nonces : Nonces world)
    (holds : heldNonce running.task = some nonce) (known : world.broker.outstanding nonce = some claims)
    (same : after.nonces = world.broker.nonces) (taken : after.outstanding = Function.update world.broker.outstanding nonce none) :
    Nonces { world with broker := after, running := Function.update world.running name (some running), steps } where
  outstanding := by
    rw [taken, same]
    exact kept_without nonces.outstanding nonce
  held := by
    intro other item otherNonce found otherHolds
    dsimp only at found ⊢
    rw [same, taken, Function.update_apply]
    by_cases here : other = name
    · subst here
      rw [Function.update_self, Option.some_inj] at found
      rw [← found, holds, Option.some_inj] at otherHolds
      subst otherHolds
      exact ⟨nonces.outstanding nonce claims known, if_pos rfl⟩
    · rw [Function.update_of_ne here] at found
      obtain ⟨below, gone⟩ := nonces.held other item otherNonce found otherHolds
      exact ⟨below, by rw [gone, ite_self]⟩
  spent := by
    intro call member other paid
    obtain ⟨below, gone⟩ := nonces.spent call member other paid
    rw [same, taken, Function.update_apply]
    exact ⟨below, by rw [gone, ite_self]⟩
  spending := by
    apply nonces.spending.take holds
    · -- the nonce was outstanding, so no request holds it
      intro other item found otherHolds
      have gone := (nonces.held other item nonce found otherHolds).2
      rw [known] at gone
      cases gone
    · intro call member paid
      have gone := (nonces.spent call member nonce paid).2
      rw [known] at gone
      cases gone

theorem Nonces.waits {task : Task} {name began : Nat} (nonces : Nonces world)
    (piece : Piece platform signed world.broker request before moment (.waits task) after) : Nonces
      { world.settle name request began (.waits task, after) with steps := world.steps + 1 } := by
  simp only [World.settle]
  rcases waits_nonces piece with ⟨free, same, kept⟩ | ⟨free, claims, now, drawn, rfl⟩ | ⟨nonce, claims, holds, known, same, spent⟩
  · apply nonces.unheld
    · rintro _ ⟨⟩
      exact free
    · intro nonce claims found
      rw [kept] at found
      rw [same]
      exact nonces.outstanding nonce claims found
    · intro nonce _ gone
      rw [kept]
      exact gone
    · rw [same]
  · apply nonces.unheld
    · rintro _ ⟨⟩
      exact free
    · intro nonce other found
      simp only [addOutstanding, Function.update_apply] at found ⊢
      split at found
      · next here =>
        rw [here, drawn]
        exact Nat.lt_succ_self _
      · exact Nat.lt_succ_of_lt (nonces.outstanding nonce other (Option.filter_eq_some_iff.mp found).1)
    · intro nonce below gone
      have elsewhere : nonce ≠ claims.nonce := by omega
      simp only [addOutstanding, Function.update_of_ne elsewhere, gone, Option.filter_none]
    · exact Nat.le_succ _
  · exact nonces.hold holds known same spent

theorem filledCapability_some {call : Call} {claims : VaultUseClaims} (filled : filledCapability call = some claims) :
    ∃ input fields reply, call.request = .fill input ∧ call.answer = .filled fields reply ∧ input.capability.claims = claims := by
  unfold filledCapability at filled
  split at filled
  · next input fields reply asked said =>
    cases filled
    exact ⟨input, fields, reply, asked, said, rfl⟩
  · cases filled

theorem Nonces.answers {answer : VaultAnswer} {name began : Nat} (nonces : Nonces world)
    (provenance : Provenance platform world) (turn : Turn world event name request began before moment)
    (piece : Piece platform signed world.broker request before moment (.answers answer) after) : Nonces
      { world.settle name request began (.answers answer, after) with steps := world.steps + 1 } := by
  simp only [World.settle]
  obtain ⟨same, shrinks⟩ := answers_nonces piece
  have cleared : Nonces {
      world with
      broker := after
      running := Function.update world.running name none
      steps := world.steps + 1 } := by
    apply nonces.unheld (by simp)
    · intro nonce claims found
      rw [same]
      exact nonces.outstanding nonce claims (shrinks nonce claims found)
    · exact fun nonce _ gone => none_of_shrinks shrinks gone
    · rw [same]
  cases filled : filledCapability { name, request, began, answered := world.steps, answer } with
  | none =>
    have unpaid : filledNonce { name, request, began, answered := world.steps, answer } = none := by
      rw [filledNonce, filled, Option.map_none]
    refine { cleared with spent := ?_, spending := cleared.spending.record unpaid }
    intro call member nonce paid
    rcases List.mem_append.mp member with old | new
    · exact cleared.spent call old nonce paid
    · rw [List.mem_singleton] at new
      rw [new, unpaid] at paid
      cases paid
  | some claims =>
    obtain ⟨input, fields, reply, asked, said, equal⟩ := filledCapability_some filled
    subst asked said equal
    have holds := turn.holds provenance
    obtain ⟨other, held, rfl, -⟩ := piece_filled piece
    obtain ⟨equal, rfl, -⟩ := holds
    cases equal
    obtain ⟨running, found, task, -⟩ := turn.found
    have holding : heldNonce running.task = some input.capability.claims.nonce := by
      rw [task]
      rfl
    obtain ⟨below, gone⟩ := nonces.held name running _ found holding
    refine { cleared with spent := ?_, spending := nonces.spending.spend found holding rfl }
    intro call member nonce paid
    rcases List.mem_append.mp member with old | new
    · exact cleared.spent call old nonce paid
    · rw [List.mem_singleton] at new
      rw [new] at paid
      cases paid
      exact ⟨same ▸ below, none_of_shrinks shrinks gone⟩

theorem stepped_nonces (stepped : Stepped platform world event later) (provenance : Provenance platform world)
    (nonces : Nonces world) : Nonces later := by
  cases stepped with
  | idle => exact { nonces with }
  | signs => exact { nonces with }
  | waits turn piece => exact nonces.waits piece
  | answers turn piece => exact nonces.answers provenance turn piece
  | @restarts event broker torn =>
    have same : world.broker.nonces = broker.nonces := by
      rcases torn with rfl | ⟨input, rfl⟩
      · rfl
      · exact raiseFloor_same.nonces.symm
    refine ⟨?_, ?_, ?_, nonces.spending.clear⟩
    · intro nonce claims found
      cases found
    · intro name running nonce found
      cases found
    · intro call member nonce paid
      exact ⟨same ▸ (nonces.spent call member nonce paid).1, rfl⟩

def Revokes (call : Call) (scope : VaultScope) (generation : Nat) : Prop :=
  ∃ floor, call.request = .revoke { scope, generation } ∧ call.answer = .floor floor

/-- What is known of the revokes that were answered. -/
structure Revoked (world : World) : Prop where
  floors : ∀ call ∈ world.history, ∀ scope generation, Revokes call scope generation →
    generation ≤ world.broker.floors scope
  held : ∀ name running input claims, world.running name = some running → running.task = .fillOpening input claims →
    ∀ call ∈ world.history, ∀ generation, Revokes call claims.scope generation → call.answered < running.began →
      generation ≤ claims.generation
  fills : ∀ fill ∈ world.history, ∀ claims, filledCapability fill = some claims →
    ∀ call ∈ world.history, ∀ generation, Revokes call claims.scope generation → call.answered < fill.began →
      generation ≤ claims.generation

theorem piece_fillOpening {input : FillRequest} {claims : VaultUseClaims}
    (piece : Piece platform signed broker request before moment (.waits (.fillOpening input claims)) after) :
    broker.floors claims.scope ≤ claims.generation := by
  cases piece with
  | fillVerified member same known current => exact current

theorem piece_revoke {input : RevokeRequest} {floor : Nat}
    (piece : Piece platform signed broker (.revoke input) before moment (.answers (.floor floor)) after) :
    input.generation ≤ after.floors input.scope := by
  cases piece with
  | revoke => exact raiseFloor_reaches

theorem Revoked.waits {task : Task} {name began : Nat} (revoked : Revoked world)
    (piece : Piece platform signed world.broker request before moment (.waits task) after) : Revoked
      { world.settle name request began (.waits task, after) with steps := world.steps + 1 } where
  floors := fun call member scope generation revokes =>
    Nat.le_trans (revoked.floors call member scope generation revokes) (piece_floors_le piece scope)
  held := by
    intro other running input claims found opening call member generation revokes earlier
    simp only [World.settle, Function.update_apply] at found
    split at found
    · cases found
      subst opening
      calc generation
        _ ≤ world.broker.floors claims.scope := revoked.floors call member claims.scope generation revokes
        _ ≤ claims.generation := piece_fillOpening piece
    · exact revoked.held other running input claims found opening call member generation revokes earlier
  fills := revoked.fills

theorem Revoked.answers {answer : VaultAnswer} {name began : Nat} (revoked : Revoked world) (stamped : Stamped world)
    (provenance : Provenance platform world) (turn : Turn world event name request began before moment)
    (piece : Piece platform signed world.broker request before moment (.answers answer) after) : Revoked
      { world.settle name request began (.answers answer, after) with steps := world.steps + 1 } where
  floors := by
    intro call member scope generation revokes
    rcases List.mem_append.mp member with old | new
    · exact Nat.le_trans (revoked.floors call old scope generation revokes) (piece_floors_le piece scope)
    · rw [List.mem_singleton] at new
      subst new
      obtain ⟨floor, asked, said⟩ := revokes
      subst asked said
      exact piece_revoke piece
  held := by
    intro other running input claims found opening call member generation revokes earlier
    simp only [World.settle, Function.update_apply] at found
    split at found
    · cases found
    rcases List.mem_append.mp member with old | new
    · exact revoked.held other running input claims found opening call old generation revokes earlier
    · -- the new call was answered after the fill began
      rw [List.mem_singleton] at new
      subst new
      have began := stamped.running other running found
      dsimp only at earlier
      omega
  fills := by
    intro fill filled claims same call member generation revokes earlier
    rcases List.mem_append.mp filled with oldFill | newFill
    · rcases List.mem_append.mp member with old | new
      · exact revoked.fills fill oldFill claims same call old generation revokes earlier
      · rw [List.mem_singleton] at new
        subst new
        have stamps := stamped.calls fill oldFill
        dsimp only at earlier
        omega
    · rw [List.mem_singleton] at newFill
      subst newFill
      rcases List.mem_append.mp member with old | new
      · obtain ⟨input, fields, reply, asked, said, equal⟩ := filledCapability_some same
        subst asked said equal
        have holds := turn.holds provenance
        obtain ⟨other, held, rfl, -⟩ := piece_filled piece
        obtain ⟨equal, rfl, -⟩ := holds
        cases equal
        obtain ⟨running, found, task, began⟩ := turn.found
        subst began
        exact revoked.held name running input _ found task call old generation revokes earlier
      · rw [List.mem_singleton] at new
        subst new
        have late := turn.began_le stamped
        dsimp only at earlier
        omega

theorem stepped_revoked (stepped : Stepped platform world event later) (provenance : Provenance platform world)
    (current : world.broker.floors = world.broker.storedFloors) (stamped : Stamped world) (revoked : Revoked world) :
    Revoked later := by
  have rises := stepped_floors stepped current
  cases stepped with
  | idle => exact { revoked with }
  | signs => exact { revoked with }
  | waits turn piece => exact revoked.waits piece
  | answers turn piece => exact revoked.answers stamped provenance turn piece
  | restarts torn =>
    refine ⟨?_, ?_, revoked.fills⟩
    · intro call member scope generation revokes
      exact Nat.le_trans (revoked.floors call member scope generation revokes) (rises scope)
    · intro name running input claims found
      cases found

end

/-- The world after a run that begins with the broker's first start. -/
def World.run (platform : Platform) (events : List Event) : World := events.foldl (World.step platform) {}

structure Sound (platform : Platform) (world : World) : Prop where
  current : world.broker.floors = world.broker.storedFloors
  provenance : Provenance platform world
  stamped : Stamped world
  nonces : Nonces world
  revoked : Revoked world

theorem sound_run (platform : Platform) (events : List Event) : Sound platform (World.run platform events) := by
  have reached : Reached (fun world => world = {}) (fun _ _ => True) (World.step platform) (World.run platform events) := by
    refine Reached.run (.start rfl) ?_
    generalize ({} : World) = world
    induction events generalizing world with
    | nil => trivial
    | cons event rest ih => exact ⟨trivial, ih _⟩
  apply reached.invariant
  · rintro _ rfl
    refine ⟨rfl, ⟨?_, ?_, ?_, ?_⟩, ⟨?_, ?_⟩, ⟨?_, ?_, ?_, ⟨?_, ?_, List.nodup_nil⟩⟩, ⟨?_, ?_, ?_⟩⟩
    all_goals
      intros
      contradiction
  · intro world event sound _
    have stepped : Stepped platform world event (world.step platform event) := step_stepped world event
    exact ⟨stepped_current stepped sound.current, stepped_provenance stepped sound.provenance,
      stepped_stamped stepped sound.stamped, stepped_nonces stepped sound.provenance sound.nonces,
      stepped_revoked stepped sound.provenance sound.current sound.stamped sound.revoked⟩

structure FillsInside (platform : Platform) (world : World) : Prop where
  once : (world.history.filterMap filledCapability).Nodup
  handedOut : ∀ fill ∈ world.history, ∀ claims, filledCapability fill = some claims →
    ∃ call ∈ world.history, call.answer = .capability claims
  named : ∀ fill ∈ world.history, ∀ input fields reply, fill.request = .fill input → fill.answer = .filled fields reply →
    ∀ field ∈ fields, field.1 ∈ input.capability.claims.fields
  certified : ∀ fill ∈ world.history, ∀ claims, filledCapability fill = some claims →
    Capable world.broker.delegations claims
  delegated : ∀ issued ∈ world.broker.delegations,
    ∃ statement, Delegated platform world.signatures world.Asked issued statement
  retired : ∀ fill ∈ world.history, ∀ claims, filledCapability fill = some claims →
    ∀ call ∈ world.history, ∀ generation, Revokes call claims.scope generation → call.answered < fill.began →
      generation ≤ claims.generation
  rises : ∀ event scope, world.broker.storedFloors scope ≤ (world.step platform event).broker.storedFloors scope

/-- Vault fills stay inside what the operator delegated, in every run. -/
theorem fills_inside (platform : Platform) (events : List Event) : FillsInside platform (World.run platform events) := by
  obtain ⟨current, provenance, -, nonces, revoked⟩ := sound_run platform events
  constructor
  · have once := nonces.spending.once
    have apart : (fun call => (filledCapability call).map (·.nonce)) = filledNonce := rfl
    rw [← apart, ← List.map_filterMap] at once
    exact once.of_map _
  · intro fill member claims filled
    obtain ⟨input, fields, reply, asked, said, rfl⟩ := filledCapability_some filled
    obtain ⟨⟨issued, listed, same⟩, -⟩ := provenance.fills fill member input fields reply asked said
    obtain ⟨-, call, answered, handed⟩ := provenance.capabilities issued listed
    exact ⟨call, answered, same ▸ handed⟩
  · intro fill member input fields reply asked said
    exact (provenance.fills fill member input fields reply asked said).2
  · intro fill member claims filled
    obtain ⟨input, fields, reply, asked, said, rfl⟩ := filledCapability_some filled
    obtain ⟨⟨issued, listed, same⟩, -⟩ := provenance.fills fill member input fields reply asked said
    exact same ▸ (provenance.capabilities issued listed).1
  · exact provenance.delegations
  · exact revoked.fills
  · intro event scope
    have stepped : Stepped platform (World.run platform events) event ((World.run platform events).step platform event) :=
      step_stepped _ _
    have rises := stepped_floors stepped current scope
    rw [current, stepped_current stepped current] at rises
    exact rises

namespace Sample

/-- Everything parses, one key is enrolled, and sites are their own canonical form. -/
def platform : Platform where
  parses := fun _ => true
  parsesDelegation := fun _ => true
  parsesUse := fun _ => true
  parsesGrant := fun _ => true
  enrolled := fun _ key => key = "unlock key"
  transportKey := "transport key"
  vaultPublicKeyOf := fun key => "public of " ++ key
  canonicalVaultOrigin := some
  vaultSignupSite := some
  generateVaultPassword := fun _ drawn => some drawn

def scope : VaultScope := ⟨"user:alice", "vault:0123456789abcdef"⟩

def share : VaultEnvelope :=
  { key := .serverShare scope "unlock key", context := { purpose := .serverShare, scope }, content := "share" }

def bank : DelegatedItem where
  handle := "vault_item:bank"
  origins := ["https://bank.example"]
  fields := [.username, .password]
  approvalMode := "FULL"
  submit := true

def delegateWith (generation : Nat) (signature : OperatorSignature) : DelegateRequest where
  scope := scope
  generation := generation
  unlockEpoch := 1
  envelopeDigest := "digest"
  expiresAt := 1000000
  items := [bank]
  sealedFillKey := sealToVaultPublicKey "transport key" "fill key" scope
  operatorSignature := signature
  unlockPublicKey := "unlock key"
  serverShareEnvelope := share
  sealedInboxKey := some (sealToVaultPublicKey "transport key" "inbox key" scope)

def signatureOf (generation : Nat) : OperatorSignature where
  unlockPublicKey := "unlock key"
  -- the signature is not part of what is signed
  statement := vaultDelegationOperatorMessage (delegateWith generation ⟨"", .delegation ⟨scope, "", 0, 0, 0, []⟩⟩)

/-- A request of three pieces after its arrival. -/
def turns (name : Nat) (request : VaultRequest) (now : ℤ) (drawn : String) : List Event :=
  [.arrives name request ⟨now, drawn⟩, .proceeds name ⟨now, drawn⟩, .proceeds name ⟨now, drawn⟩, .proceeds name ⟨now, drawn⟩]

end Sample

end SpaceApp.Vault
