import Mathlib.Data.List.Basic
import SpaceApp.Vault.Broker

/-! What one piece of a request, and one step of the world, can do. -/

set_option autoImplicit false

namespace SpaceApp.Vault

section

variable {broker : Broker}

structure SameButFloors (broker after : Broker) : Prop where
  outstanding : after.outstanding = broker.outstanding
  signups : after.signups = broker.signups
  storedSignups : after.storedSignups = broker.storedSignups
  delegations : after.delegations = broker.delegations
  capabilities : after.capabilities = broker.capabilities
  grants : after.grants = broker.grants
  nonces : after.nonces = broker.nonces

theorem raiseFloor_same {scope : VaultScope} {generation : Nat} : SameButFloors broker (broker.raiseFloor scope generation) := by
  unfold Broker.raiseFloor
  split <;> exact ⟨rfl, rfl, rfl, rfl, rfl, rfl, rfl⟩

section

variable {input : RevokeRequest} {moment : Moment}

@[simp] theorem revoke_outstanding : (revoke input moment broker).2.outstanding =
    fun nonce => (broker.outstanding nonce).filter fun claims => claims.scope ≠ input.scope := by
  change (fun nonce => ((broker.raiseFloor _ _).outstanding nonce).filter _) = _
  rw [raiseFloor_same.outstanding]

@[simp] theorem revoke_signups : (revoke input moment broker).2.signups = { broker.signups with
    voidBefore := Function.update broker.signups.voidBefore input.scope (some moment.now) } := by
  rw [← (@raiseFloor_same broker input.scope input.generation).signups]
  rfl

end

theorem signupRevoke_rest (input : SignupRevokeRequest) :
    ∃ signups storedSignups, (signupRevoke input broker).2 = { broker with signups, storedSignups } := by
  unfold signupRevoke
  split
  · exact ⟨_, _, rfl⟩
  · exact ⟨_, _, rfl⟩

end

section

variable (platform : Platform) (signed : List OperatorSignature) (broker : Broker)

structure Covers (item : DelegatedItem) (handle origin : String) (fields : List VaultFieldRole) : Prop where
  handle : item.handle = handle
  origin : origin ∈ item.origins
  fields : ∀ field ∈ fields, field ∈ item.fields

/-- One piece: the request, where it waited if it did, and what came of it. -/
inductive Piece : VaultRequest → Option Task → Moment → Outcome → Broker → Prop where
  | refused {request : VaultRequest} {task : Option Task} {moment : Moment} (reason : Refusal) :
      Piece request task moment (.answers (.refused reason)) broker
  | delegate {input : DelegateRequest} {moment : Moment} :
      Piece (.delegate input) none moment (.waits (.delegateOpening input)) broker
  | delegatePending {input : DelegatePendingRequest} {moment : Moment} :
      Piece (.delegatePending input) none moment (.waits (.pendingVerifying input moment.now)) broker
  | use {input : UseRequest} {moment : Moment} :
      Piece (.use input) none moment (.waits (.useVerifying input moment.now)) broker
  | fill {input : FillRequest} {moment : Moment} :
      Piece (.fill input) none moment (.waits (.fillVerifying input moment.now)) broker
  | revoke {input : RevokeRequest} {moment : Moment} :
      Piece (.revoke input) none moment (.answers (.floor ((broker.raiseFloor input.scope input.generation).floors input.scope)))
        (revoke input moment broker).2
  | signupGrant {input : SignupGrantRequest} {moment : Moment} :
      Piece (.signupGrant input) none moment (.waits (.grantOpening input)) broker
  | signup {input : SignupRequest} {moment : Moment} :
      Piece (.signup input) none moment (.waits (.signupVerifying input moment.now)) broker
  | signupAutoGrant {input : AutoGrantRequest} {moment : Moment} :
      Piece (.signupAutoGrant input) none moment (.waits (.autoGrantVerifying input moment.now)) broker
  | signupRevoke {input : SignupRevokeRequest} {moment : Moment} :
      Piece (.signupRevoke input) none moment (.answers .grantRevoked) (signupRevoke input broker).2
  | delegateOpened {request : VaultRequest} {input : DelegateRequest} {moment : Moment}
      (enrolled : platform.enrolled input.scope input.unlockPublicKey = true)
      (signature : { unlockPublicKey := input.unlockPublicKey, statement := vaultDelegationOperatorMessage input } ∈ signed)
      (above : broker.floors input.scope < input.generation) :
      Piece request (some (.delegateOpening input)) moment (.waits (.delegateSealing input)) broker
  | delegateSealed {request : VaultRequest} {input : DelegateRequest} {moment : Moment}
      (keyEnvelope : VaultEnvelope) (inboxKeyEnvelope : Option VaultEnvelope) :
      Piece request (some (.delegateSealing input)) moment
        (.waits (.delegateSigning { claims := delegationClaims input moment, basis := vaultDelegationOperatorMessage input }
          keyEnvelope inboxKeyEnvelope))
        (broker.raiseFloor input.scope input.generation)
  | delegateSigned {request : VaultRequest} {issued : Issued VaultDelegationClaims} {keyEnvelope : VaultEnvelope}
      {inboxKeyEnvelope : Option VaultEnvelope} {moment : Moment} :
      Piece request (some (.delegateSigning issued keyEnvelope inboxKeyEnvelope)) moment
        (.answers (.delegated issued.claims keyEnvelope inboxKeyEnvelope))
        { broker with delegations := broker.delegations ++ [issued] }
  | pendingVerified {request : VaultRequest} {input : DelegatePendingRequest} {asked : ℤ} {moment : Moment}
      {delegation : Issued VaultDelegationClaims} (member : delegation ∈ broker.delegations)
      (scope : delegation.claims.scope = input.scope) :
      Piece request (some (.pendingVerifying input asked)) moment (.waits (.pendingSealing input delegation)) broker
  | pendingSealed {request : VaultRequest} {input : DelegatePendingRequest} {delegation : Issued VaultDelegationClaims}
      {moment : Moment} (fieldEnvelopes : List (VaultFieldRole × VaultEnvelope)) :
      Piece request (some (.pendingSealing input delegation)) moment
        (.waits (.pendingSigning
          { claims := { delegation.claims with
              certId := moment.drawn
              items := extendItems delegation.claims.items input.entry (fieldEnvelopes.map (·.1)) }
            basis := delegation.basis } fieldEnvelopes)) broker
  | pendingSigned {request : VaultRequest} {issued : Issued VaultDelegationClaims}
      {fieldEnvelopes : List (VaultFieldRole × VaultEnvelope)} {moment : Moment} :
      Piece request (some (.pendingSigning issued fieldEnvelopes)) moment
        (.answers (.extended issued.claims fieldEnvelopes)) { broker with delegations := broker.delegations ++ [issued] }
  | useVerified {request : VaultRequest} {input : UseRequest} {asked : ℤ} {moment : Moment}
      {delegation : Issued VaultDelegationClaims} {item : DelegatedItem} (member : delegation ∈ broker.delegations)
      (scope : delegation.claims.scope = input.scope) (listed : item ∈ delegation.claims.items)
      (covers : Covers item input.handle input.origin input.fields) :
      Piece request (some (.useVerifying input asked)) moment
        (.waits (.useSigning
          { claims := useClaims input delegation.claims broker.nonces moment.now, basis := delegation.basis }))
        (addOutstanding broker (useClaims input delegation.claims broker.nonces moment.now) moment.now)
  | useSigned {request : VaultRequest} {issued : Issued VaultUseClaims} {moment : Moment} :
      Piece request (some (.useSigning issued)) moment (.answers (.capability issued.claims))
        { broker with capabilities := broker.capabilities ++ [issued] }
  | fillSpent {request : VaultRequest} {input : FillRequest} {asked : ℤ} {moment : Moment} (nonce : Nat) (reason : Refusal) :
      Piece request (some (.fillVerifying input asked)) moment (.answers (.refused reason))
        { broker with outstanding := Function.update broker.outstanding nonce none }
  | fillVerified {request : VaultRequest} {input : FillRequest} {asked : ℤ} {moment : Moment}
      {issued : Issued VaultUseClaims} (member : issued ∈ broker.capabilities) (same : issued.claims = input.capability.claims)
      (known : broker.outstanding input.capability.claims.nonce = some input.capability.claims)
      (current : broker.floors input.capability.claims.scope ≤ input.capability.claims.generation) :
      Piece request (some (.fillVerifying input asked)) moment (.waits (.fillOpening input input.capability.claims))
        { broker with outstanding := Function.update broker.outstanding input.capability.claims.nonce none }
  | fillOpened {request : VaultRequest} {input : FillRequest} {claims : VaultUseClaims} {moment : Moment}
      {fields : List (VaultFieldRole × String)} (named : ∀ field ∈ fields, field.1 ∈ claims.fields) :
      Piece request (some (.fillOpening input claims)) moment (.answers (.filled fields input.replyPublicKey)) broker
  | grantOpened {request : VaultRequest} {input : SignupGrantRequest} {moment : Moment}
      {issued : Issued VaultSignupGrantClaims}
      (enrolled : platform.enrolled input.scope input.unlockPublicKey = true)
      (signature : { unlockPublicKey := input.unlockPublicKey, statement := vaultSignupGrantOperatorMessage input } ∈ signed)
      (scope : issued.claims.scope = input.scope) (issuedAt : issued.claims.issuedAt = moment.now)
      (basis : issued.basis = vaultSignupGrantOperatorMessage input) :
      Piece request (some (.grantOpening input)) moment (.waits (.grantSigning issued)) broker
  | grantSigned {request : VaultRequest} {issued : Issued VaultSignupGrantClaims} {moment : Moment} :
      Piece request (some (.grantSigning issued)) moment (.answers (.granted issued.claims))
        { broker with grants := broker.grants ++ [issued] }
  | signupVerified {request : VaultRequest} {input : SignupRequest} {asked : ℤ} {moment : Moment}
      {grant : Issued VaultSignupGrantClaims} {password : String} (member : grant ∈ broker.grants)
      (same : grant.claims = input.certificate.claims) (scope : grant.claims.scope = input.scope)
      (kept : grant.claims.grantId ∉ broker.signups.revoked)
      (unvoided : voided broker.signups input.scope grant.claims.issuedAt = false)
      (below : broker.signups.uses (grant.claims.grantId, utcDay moment.now) < grant.claims.dailyCap) :
      Piece request (some (.signupVerifying input asked)) moment
        (.waits (.signupSealing input password (utcDay moment.now)
          (broker.signups.uses (grant.claims.grantId, utcDay moment.now))))
        (broker.saveSignups { broker.signups with
          uses := countUse broker.signups.uses grant.claims.grantId (utcDay moment.now) })
  | signupSealed {request : VaultRequest} {input : SignupRequest} {password : String} {day : ℤ} {use : Nat}
      {moment : Moment} :
      Piece request (some (.signupSealing input password day use)) moment
        (.answers (.generated password input.inboxPublicKey input.roles input.replyPublicKey day use)) broker
  | autoGrantVerified {request : VaultRequest} {input : AutoGrantRequest} {asked : ℤ} {moment : Moment}
      {delegation : Issued VaultDelegationClaims} {issued : Issued VaultSignupGrantClaims}
      (member : delegation ∈ broker.delegations) (scope : delegation.claims.scope = input.scope)
      (current : broker.floors input.scope ≤ delegation.claims.generation)
      (unvoided : voided broker.signups input.scope delegation.claims.issuedAt = false)
      (sameScope : issued.claims.scope = input.scope) (issuedAt : issued.claims.issuedAt = moment.now)
      (basis : issued.basis = delegation.basis) :
      Piece request (some (.autoGrantVerifying input asked)) moment (.waits (.grantSigning issued)) broker

variable {platform signed broker}

theorem verifyVaultCertificate_ok {Claims : Type} [DecidableEq Claims] {parses : Claims → Bool} {issuedAt expiresAt : Claims → ℤ}
    {known : List (Issued Claims)} {certificate : VaultCertificate Claims} {now : ℤ} {issued : Issued Claims}
    (verified : verifyVaultCertificate parses issuedAt expiresAt known certificate now = .ok issued) :
    issued ∈ known ∧ issued.claims = certificate.claims := by
  unfold verifyVaultCertificate at verified
  split at verified
  · cases verified
  next found named =>
  split at verified
  · cases verified
  split at verified
  · cases verified
  cases verified
  have same := List.find?_some named
  exact ⟨List.mem_of_find?_eq_some named, by simpa using same⟩

theorem toOption_some {Error Value : Type} {result : Except Error Value} {value : Value}
    (found : result.toOption = some value) : result = .ok value := by
  cases result with
  | error error => cases found
  | ok other =>
    cases found
    rfl

theorem openShare_enrolled {scope : VaultScope} {key share : String} {envelope : VaultEnvelope}
    (opens : openShare platform scope key envelope = some share) : platform.enrolled scope key = true := by
  unfold openShare at opens
  split at opens
  · assumption
  · cases opens

theorem verifyVaultMessage_signed {key : String} {statement : OperatorStatement} {signature : OperatorSignature}
    (verified : ¬ verifyVaultMessage signed key statement signature = false) :
    { unlockPublicKey := key, statement } ∈ signed := by
  rw [Bool.not_eq_false] at verified
  simp only [verifyVaultMessage, Bool.and_eq_true, decide_eq_true_eq, List.contains_iff_mem] at verified
  obtain ⟨rfl, member⟩ := verified
  exact member

variable {request : VaultRequest} {moment : Moment}

theorem delegateOpened_piece (input : DelegateRequest) :
    Piece platform signed broker request (some (.delegateOpening input)) moment
      (delegateOpened platform signed input moment broker).1 (delegateOpened platform signed input moment broker).2 := by
  unfold delegateOpened refuse
  split
  · exact .refused _
  next share opens =>
  split
  · exact .refused _
  next verified =>
  split
  · exact .refused _
  next above =>
  split
  · exact .refused _
  · exact .delegateOpened (openShare_enrolled opens) (verifyVaultMessage_signed verified) (Nat.lt_of_not_le above)

theorem delegateSealed_piece (input : DelegateRequest) :
    Piece platform signed broker request (some (.delegateSealing input)) moment
      (delegateSealed platform input moment broker).1 (delegateSealed platform input moment broker).2 := by
  unfold delegateSealed refuse
  split
  · exact .refused _
  · exact .delegateSealed _ _

theorem pendingVerified_piece (input : DelegatePendingRequest) (asked : ℤ) :
    Piece platform signed broker request (some (.pendingVerifying input asked)) moment
      (pendingVerified platform input asked broker).1 (pendingVerified platform input asked broker).2 := by
  unfold pendingVerified refuse
  split
  · exact .refused _
  next delegation verified =>
  dsimp only
  split
  · exact .refused _
  next scope =>
  split
  · exact .refused _
  split
  · exact .refused _
  split
  · exact .refused _
  · exact .pendingVerified (verifyVaultCertificate_ok (toOption_some verified)).1 (not_not.mp scope)

theorem pendingSealed_piece (input : DelegatePendingRequest) (delegation : Issued VaultDelegationClaims) :
    Piece platform signed broker request (some (.pendingSealing input delegation)) moment
      (pendingSealed platform input delegation moment broker).1 (pendingSealed platform input delegation moment broker).2 := by
  unfold pendingSealed refuse
  dsimp only
  split
  · exact .refused _
  split
  · exact .refused _
  split
  · exact .refused _
  · exact .pendingSealed _

theorem useVerified_piece (input : UseRequest) (asked : ℤ) :
    Piece platform signed broker request (some (.useVerifying input asked)) moment
      (useVerified platform input asked moment broker).1 (useVerified platform input asked moment broker).2 := by
  unfold useVerified refuse
  split
  · exact .refused _
  next delegation verified =>
  split
  · exact .refused _
  next scope =>
  split
  · exact .refused _
  split
  · exact .refused _
  next item found =>
  split
  · exact .refused _
  next covered =>
  simp only [Bool.or_eq_true, Bool.and_eq_true, List.any_eq_true, decide_eq_true_eq, not_or, not_exists, not_and,
    Classical.not_not] at covered
  have named := List.find?_some found
  exact .useVerified (verifyVaultCertificate_ok (toOption_some verified)).1 (not_not.mp scope)
    (List.mem_of_find?_eq_some found) ⟨by simpa using named, covered.1.2, covered.1.1⟩

theorem fillVerified_piece (input : FillRequest) (asked : ℤ) :
    Piece platform signed broker request (some (.fillVerifying input asked)) moment
      (fillVerified platform input asked broker).1 (fillVerified platform input asked broker).2 := by
  unfold fillVerified refuse
  split
  · exact .refused _
  next issued verified =>
  obtain ⟨member, same⟩ := verifyVaultCertificate_ok (toOption_some verified)
  dsimp only
  split
  · exact .fillSpent _ _
  next known =>
  split
  · exact .fillSpent _ _
  next current =>
  rw [same] at known current ⊢
  exact .fillVerified member same (not_not.mp known) (Nat.le_of_not_lt current)

theorem openFields_named {fillKey : String} {claims : VaultUseClaims} {envelopes : List (VaultFieldRole × VaultEnvelope)}
    {roles : List VaultFieldRole} {before after : List (VaultFieldRole × String)}
    (opens : openFields fillKey claims envelopes roles before = some after) :
    ∀ field ∈ after, field ∈ before ∨ field.1 ∈ roles := by
  induction roles generalizing before with
  | nil =>
    cases opens
    exact fun field member => .inl member
  | cons role roles ih =>
    intro field member
    unfold openFields at opens
    split at opens
    · exact (ih opens field member).imp id (List.mem_cons_of_mem role)
    split at opens
    · cases opens
    rcases ih opens field member with earlier | later
    · rcases List.mem_append.mp earlier with kept | added
      · exact .inl (List.mem_of_mem_filter kept)
      · rw [List.mem_singleton] at added
        rw [added]
        exact .inr List.mem_cons_self
    · exact .inr (List.mem_cons_of_mem role later)

theorem fillOpened_piece (input : FillRequest) (claims : VaultUseClaims) :
    Piece platform signed broker request (some (.fillOpening input claims)) moment (fillOpened input claims broker).1
      (fillOpened input claims broker).2 := by
  unfold fillOpened refuse
  split
  · exact .refused _
  split
  · exact .refused _
  next opens =>
  refine .fillOpened fun field member => ?_
  rcases openFields_named opens field member with none_ | named
  · cases none_
  · split at named
    · cases named
    · exact named

theorem grantOpened_piece (input : SignupGrantRequest) :
    Piece platform signed broker request (some (.grantOpening input)) moment
      (grantOpened platform signed input moment broker).1 (grantOpened platform signed input moment broker).2 := by
  unfold grantOpened refuse
  split
  · exact .refused _
  next share opens =>
  split
  · exact .refused _
  next verified =>
  split
  · exact .refused _
  split
  · exact .refused _
  · exact .grantOpened (openShare_enrolled opens) (verifyVaultMessage_signed verified) rfl rfl rfl

theorem signupVerified_piece (input : SignupRequest) (asked : ℤ) :
    Piece platform signed broker request (some (.signupVerifying input asked)) moment
      (signupVerified platform input asked moment broker).1 (signupVerified platform input asked moment broker).2 := by
  unfold signupVerified refuse
  split
  · exact .refused _
  · exact .refused _
  next grant verified =>
  obtain ⟨member, same⟩ := verifyVaultCertificate_ok verified
  dsimp only
  split
  · exact .refused _
  next scope =>
  split
  · exact .refused _
  next kept =>
  split
  · exact .refused _
  split
  · exact .refused _
  next below =>
  split
  · exact .refused _
  · rw [not_or, Bool.not_eq_true] at kept
    exact .signupVerified member same (not_not.mp scope) kept.1 kept.2 (Nat.lt_of_not_le below)

theorem autoGrantVerified_piece (input : AutoGrantRequest) (asked : ℤ) :
    Piece platform signed broker request (some (.autoGrantVerifying input asked)) moment
      (autoGrantVerified platform input asked moment broker).1 (autoGrantVerified platform input asked moment broker).2 := by
  unfold autoGrantVerified refuse
  split
  · exact .refused _
  next delegation verified =>
  dsimp only
  split
  · exact .refused _
  next scope =>
  split
  · exact .refused _
  next current =>
  split
  · exact .refused _
  · rw [not_or, Bool.not_eq_true, Nat.not_lt] at current
    exact .autoGrantVerified (verifyVaultCertificate_ok (toOption_some verified)).1 (not_not.mp scope) current.1 current.2
      rfl rfl rfl

theorem arrive_piece (request : VaultRequest) :
    Piece platform signed broker request none moment (arrive platform request moment broker).1
      (arrive platform request moment broker).2 := by
  unfold arrive
  split
  · exact .refused _
  cases request with
  | delegate input => exact .delegate
  | delegatePending input => exact .delegatePending
  | use input => exact .use
  | fill input => exact .fill
  | revoke input => exact .revoke
  | signupGrant input => exact .signupGrant
  | signup input => exact .signup
  | signupAutoGrant input => exact .signupAutoGrant
  | signupRevoke input => exact .signupRevoke

theorem proceed_piece (task : Task) :
    Piece platform signed broker request (some task) moment (proceed platform signed task moment broker).1
      (proceed platform signed task moment broker).2 := by
  cases task with
  | delegateOpening input => exact delegateOpened_piece input
  | delegateSealing input => exact delegateSealed_piece input
  | delegateSigning issued keyEnvelope inboxKeyEnvelope => exact .delegateSigned
  | pendingVerifying input asked => exact pendingVerified_piece input asked
  | pendingSealing input delegation => exact pendingSealed_piece input delegation
  | pendingSigning issued fieldEnvelopes => exact .pendingSigned
  | useVerifying input asked => exact useVerified_piece input asked
  | useSigning issued => exact .useSigned
  | fillVerifying input asked => exact fillVerified_piece input asked
  | fillOpening input claims => exact fillOpened_piece input claims
  | grantOpening input => exact grantOpened_piece input
  | grantSigning issued => exact .grantSigned
  | signupVerifying input asked => exact signupVerified_piece input asked
  | signupSealing input password day use => exact .signupSealed
  | autoGrantVerifying input asked => exact autoGrantVerified_piece input asked

/-- Whose piece an event runs. -/
inductive Turn (world : World) : Event → Nat → VaultRequest → Nat → Option Task → Moment → Prop where
  | arrives {name : Nat} {request : VaultRequest} {moment : Moment} (unknown : world.known name = false) :
      Turn world (.arrives name request moment) name request world.steps none moment
  | proceeds {name : Nat} {running : Running} {moment : Moment} (found : world.running name = some running) :
      Turn world (.proceeds name moment) name running.request running.began (some running.task) moment

inductive Stepped (platform : Platform) (world : World) : Event → World → Prop where
  | idle {event : Event} : Stepped platform world event { world with steps := world.steps + 1 }
  | signs {signature : OperatorSignature} :
      Stepped platform world (.signs signature)
        { world with operator := world.operator ++ [(signature, world.steps)], steps := world.steps + 1 }
  | waits {event : Event} {name began : Nat} {request : VaultRequest} {before : Option Task} {moment : Moment} {task : Task}
      {broker : Broker} (turn : Turn world event name request began before moment)
      (piece : Piece platform (world.operator.map (·.1)) world.broker request before moment (.waits task) broker) :
      Stepped platform world event {
        world with
        broker
        running := Function.update world.running name (some { request, began, task })
        steps := world.steps + 1 }
  | answers {event : Event} {name began : Nat} {request : VaultRequest} {before : Option Task} {moment : Moment}
      {answer : VaultAnswer} {broker : Broker} (turn : Turn world event name request began before moment)
      (piece : Piece platform (world.operator.map (·.1)) world.broker request before moment (.answers answer) broker) :
      Stepped platform world event {
        world with
        broker
        running := Function.update world.running name none
        history := world.history ++ [{ name, request, began, answered := world.steps, answer }]
        steps := world.steps + 1 }
  | restarts {event : Event} {broker : Broker}
      (torn : broker = world.broker ∨ ∃ input : RevokeRequest, broker = world.broker.raiseFloor input.scope input.generation) :
      Stepped platform world event
        { { world with broker }.restarted with steps := world.steps + 1 }

theorem settle_stepped {world : World} {event : Event} {name began : Nat} {before : Option Task} {outcome : Outcome × Broker}
    (turn : Turn world event name request began before moment)
    (piece : Piece platform (world.operator.map (·.1)) world.broker request before moment outcome.1 outcome.2) :
    Stepped platform world event { world.settle name request began outcome with steps := world.steps + 1 } := by
  obtain ⟨outcome, after⟩ := outcome
  cases outcome with
  | waits task => exact .waits turn piece
  | answers answer => exact .answers turn piece

theorem step_stepped (world : World) (event : Event) : Stepped platform world event (world.step platform event) := by
  unfold World.step
  cases event with
  | signs signature => exact .signs
  | arrives name request moment =>
    unfold World.perform
    dsimp only
    split
    · exact .idle
    next unknown =>
    exact settle_stepped (.arrives (Bool.eq_false_of_not_eq_true unknown)) (arrive_piece request)
  | proceeds name moment =>
    unfold World.perform
    dsimp only
    split
    · exact .idle
    next running found =>
    exact settle_stepped (.proceeds found) (proceed_piece running.task)
  | restarts => exact .restarts (.inl rfl)
  | tearsRevoke input =>
    unfold World.perform
    dsimp only
    split
    · exact .idle
    · exact .restarts (.inr ⟨input, rfl⟩)

end

end SpaceApp.Vault
