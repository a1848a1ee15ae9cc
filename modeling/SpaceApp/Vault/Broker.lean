import Mathlib.Logic.Function.Basic
import SpaceApp.Vault.Claims

/-! The vault fill broker (`vault/broker-server.ts`): its requests, cut where they wait.

A handler runs in one piece from one await to the next. Awaits between which nothing shared is read
or written are one, and a piece reads the clock once. Files are replaced whole, and their writes
succeed; the process may stop at any time.
-/

set_option autoImplicit false

namespace SpaceApp.Vault

/-- What the broker gets from its schemas, the platform and the enrolment. -/
structure Platform where
  parses : VaultRequest → Bool
  parsesDelegation : VaultDelegationClaims → Bool
  parsesUse : VaultUseClaims → Bool
  parsesGrant : VaultSignupGrantClaims → Bool
  enrolled : VaultScope → String → Bool
  transportKey : String
  vaultPublicKeyOf : String → String
  canonicalVaultOrigin : String → Option String
  vaultSignupSite : String → Option String
  generateVaultPassword : Option SignupField → String → Option String

inductive Refusal where
  | badRequest | shareRefused | operatorSignatureRefused | generationRetired | expired | sealedKeyRefused
  | certificateRefused | badEntry | delegationFull | keyRefused | entryRefused | notDelegated
  | capabilityRefused | capabilityUsed | fieldRefused | revoked | originMismatch | dailyCap | policyUnsatisfiable
  deriving DecidableEq

inductive VaultAnswer where
  | delegated (certificate : VaultDelegationClaims) (keyEnvelope : VaultEnvelope) (inboxKeyEnvelope : Option VaultEnvelope)
  | extended (certificate : VaultDelegationClaims) (fieldEnvelopes : List (VaultFieldRole × VaultEnvelope))
  | capability (capability : VaultUseClaims)
  | filled (fields : List (VaultFieldRole × String)) (replyPublicKey : String)
  | granted (certificate : VaultSignupGrantClaims)
  /-- The password sealed to the inbox key, and to the reply key for the roles. It is the `use`th of the grant that
  day, from 0; the caller is not told. -/
  | generated (password inboxPublicKey : String) (roles : List VaultGenerateRole) (replyPublicKey : String) (day : ℤ)
      (use : Nat)
  | grantRevoked
  | floor (generation : Nat)
  | refused (reason : Refusal)
  deriving DecidableEq

/-- What was signed, and the operator's statement it goes back to, which the code does not keep. -/
structure Issued (Claims : Type) where
  claims : Claims
  basis : OperatorStatement
  deriving DecidableEq

structure Signups where
  revoked : List String := []
  voidBefore : VaultScope → Option ℤ := fun _ => none
  /-- Per grant and UTC day. -/
  uses : String × ℤ → Nat := fun _ => 0

/-- The process, its files, and what was ever signed with its key. -/
structure Broker where
  floors : VaultScope → Nat := fun _ => 0
  outstanding : Nat → Option VaultUseClaims := fun _ => none
  signups : Signups := {}
  storedFloors : VaultScope → Nat := fun _ => 0
  storedSignups : Signups := {}
  delegations : List (Issued VaultDelegationClaims) := []
  capabilities : List (Issued VaultUseClaims) := []
  grants : List (Issued VaultSignupGrantClaims) := []
  nonces : Nat := 0

/-- Where a request waits. -/
inductive Task where
  | delegateOpening (input : DelegateRequest)
  | delegateSealing (input : DelegateRequest)
  | delegateSigning (issued : Issued VaultDelegationClaims) (keyEnvelope : VaultEnvelope)
      (inboxKeyEnvelope : Option VaultEnvelope)
  | pendingVerifying (input : DelegatePendingRequest) (asked : ℤ)
  | pendingSealing (input : DelegatePendingRequest) (delegation : Issued VaultDelegationClaims)
  | pendingSigning (issued : Issued VaultDelegationClaims) (fieldEnvelopes : List (VaultFieldRole × VaultEnvelope))
  | useVerifying (input : UseRequest) (asked : ℤ)
  | useSigning (issued : Issued VaultUseClaims)
  | fillVerifying (input : FillRequest) (asked : ℤ)
  | fillOpening (input : FillRequest) (claims : VaultUseClaims)
  | grantOpening (input : SignupGrantRequest)
  | grantSigning (issued : Issued VaultSignupGrantClaims)
  | signupVerifying (input : SignupRequest) (asked : ℤ)
  | signupSealing (input : SignupRequest) (password : String) (day : ℤ) (use : Nat)
  | autoGrantVerifying (input : AutoGrantRequest) (asked : ℤ)
  deriving DecidableEq

inductive Outcome where
  | waits (task : Task)
  | answers (answer : VaultAnswer)
  deriving DecidableEq

/-- The clock and the random draw of a piece. -/
structure Moment where
  now : ℤ
  drawn : String := ""
  deriving DecidableEq

@[grind] def refuse (reason : Refusal) (broker : Broker) : Outcome × Broker := (.answers (.refused reason), broker)

namespace Broker

def raiseFloor (broker : Broker) (scope : VaultScope) (generation : Nat) : Broker :=
  if generation ≤ broker.floors scope then broker
  else
    let floors := Function.update broker.floors scope generation
    { broker with floors, storedFloors := floors }

def saveSignups (broker : Broker) (next : Signups) : Broker :=
  { broker with signups := next, storedSignups := next }

end Broker

inductive VaultCryptoError where
  | badSignature | expired

/-- The claims, where the certificate was signed, and is of the time `now`. -/
def verifyVaultCertificate {Claims : Type} [DecidableEq Claims] (parses : Claims → Bool) (issuedAt expiresAt : Claims → ℤ)
    (signed : List (Issued Claims)) (certificate : VaultCertificate Claims) (now : ℤ) :
    Except VaultCryptoError (Issued Claims) :=
  match signed.find? fun issued => issued.claims = certificate.claims with
  | none => .error .badSignature
  | some issued =>
    if parses certificate.claims = false ∨ certificate.sig ≠ certificate.claims then .error .badSignature
    else if now < issuedAt certificate.claims ∨ expiresAt certificate.claims ≤ now then .error .expired
    else .ok issued

section

variable (platform : Platform)

def openShare (scope : VaultScope) (unlockPublicKey : String) (envelope : VaultEnvelope) : Option String :=
  if platform.enrolled scope unlockPublicKey then
    openVaultEnvelope (.serverShare scope unlockPublicKey) envelope { purpose := .serverShare, scope }
  else none

def verifyVaultMessage (signed : List OperatorSignature) (unlockPublicKey : String) (statement : OperatorStatement)
    (signature : OperatorSignature) : Bool :=
  signature = { unlockPublicKey, statement } && signed.contains signature

def verifyDelegation (broker : Broker) (certificate : VaultCertificate VaultDelegationClaims) (now : ℤ) :
    Option (Issued VaultDelegationClaims) :=
  (verifyVaultCertificate platform.parsesDelegation (·.issuedAt) (·.expiresAt) broker.delegations certificate now).toOption

def verifyCapability (broker : Broker) (capability : VaultCertificate VaultUseClaims) (now : ℤ) :
    Option (Issued VaultUseClaims) :=
  (verifyVaultCertificate platform.parsesUse (·.issuedAt) (·.expiresAt) broker.capabilities capability now).toOption

def delegateOpened (signed : List OperatorSignature) (input : DelegateRequest) (moment : Moment) (broker : Broker) :
    Outcome × Broker :=
  match openShare platform input.scope input.unlockPublicKey input.serverShareEnvelope with
  | none => refuse .shareRefused broker
  | some _ =>
    if verifyVaultMessage signed input.unlockPublicKey (vaultDelegationOperatorMessage input) input.operatorSignature = false then
      refuse .operatorSignatureRefused broker
    else if input.generation ≤ broker.floors input.scope then refuse .generationRetired broker
    else if input.expiresAt ≤ moment.now then refuse .expired broker
    else (.waits (.delegateSealing input), broker)

def delegationContext (purpose : VaultEnvelopePurpose) (scope : VaultScope) (generation : Nat) : VaultAadContext :=
  { purpose, scope, generation := some generation }

def sealDelegationKey (purpose : VaultEnvelopePurpose) (scope : VaultScope) (generation : Nat) (key : String) : VaultEnvelope :=
  { key := .delegation scope generation, context := delegationContext purpose scope generation, content := key }

def openSealedKeys (input : DelegateRequest) : Option (String × Option String) :=
  match openWithVaultPrivateKey platform.transportKey input.sealedFillKey input.scope with
  | none => none
  | some fillKey =>
    match input.sealedInboxKey with
    | none => some (fillKey, none)
    | some envelope =>
      (openWithVaultPrivateKey platform.transportKey envelope input.scope).map fun inboxKey => (fillKey, some inboxKey)

def delegationClaims (input : DelegateRequest) (moment : Moment) : VaultDelegationClaims where
  certId := moment.drawn
  scope := input.scope
  generation := input.generation
  unlockEpoch := input.unlockEpoch
  items := input.items
  envelopeDigest := input.envelopeDigest
  issuedAt := moment.now - 1000
  expiresAt := input.expiresAt

def delegateSealed (input : DelegateRequest) (moment : Moment) (broker : Broker) : Outcome × Broker :=
  match openSealedKeys platform input with
  | none => refuse .sealedKeyRefused broker
  | some (fillKey, inboxKey) =>
    (.waits (.delegateSigning
        { claims := delegationClaims input moment, basis := vaultDelegationOperatorMessage input }
        (sealDelegationKey .fillKey input.scope input.generation fillKey)
        (inboxKey.map (sealDelegationKey .inboxKey input.scope input.generation))),
      broker.raiseFloor input.scope input.generation)

def VAULT_DELEGATION_TECHNICAL_MAX_ITEMS : Nat := 10000

def hasHandle (items : List DelegatedItem) (handle : String) : Bool := items.any fun item => item.handle = handle

/-- A login that is there only gets a password; a new one names its exact site, and has a value. -/
def badEntry (existing : Bool) (entry : PendingEntry) : Bool :=
  if existing then entry.sealedUsername.isSome || entry.sealedPassword.isNone
  else platform.canonicalVaultOrigin entry.origin ≠ some entry.origin ||
    (entry.sealedPassword.isNone && entry.sealedUsername.isNone)

def pendingVerified (input : DelegatePendingRequest) (asked : ℤ) (broker : Broker) : Outcome × Broker :=
  match verifyDelegation platform broker input.certificate asked with
  | none => refuse .certificateRefused broker
  | some delegation =>
    let existing := hasHandle delegation.claims.items input.entry.handle
    if delegation.claims.scope ≠ input.scope then refuse .certificateRefused broker
    else if delegation.claims.generation < broker.floors input.scope then refuse .generationRetired broker
    else if badEntry platform existing input.entry = true then refuse .badEntry broker
    else if existing = false ∧ VAULT_DELEGATION_TECHNICAL_MAX_ITEMS ≤ delegation.claims.items.length then
      refuse .delegationFull broker
    else (.waits (.pendingSealing input delegation), broker)

def fillContext (scope : VaultScope) (handle : String) (role : VaultFieldRole) (generation : Nat) : VaultAadContext :=
  { purpose := .fillField, scope, itemId := some handle, field := some role, generation := some generation }

/-- The values of the entry under the fill key; none where one does not open with the inbox key. -/
def sealEntry (scope : VaultScope) (generation : Nat) (entry : PendingEntry) (fillKey inboxKey : String) :
    Option (List (VaultFieldRole × VaultEnvelope)) :=
  let present := [(VaultFieldRole.username, entry.sealedUsername), (.password, entry.sealedPassword)].filterMap fun field =>
    field.2.map fun envelope => (field.1, envelope)
  present.mapM fun (role, envelope) =>
    (openWithVaultPrivateKey (platform.vaultPublicKeyOf inboxKey) envelope scope).map fun plain =>
      (role, {
        key := .material fillKey
        context := fillContext scope entry.handle role generation
        content := plain })

/-- The items with the entry: a login that is there gets its fields, a new one its own site. -/
def extendItems (items : List DelegatedItem) (entry : PendingEntry) (roles : List VaultFieldRole) : List DelegatedItem :=
  if hasHandle items entry.handle then
    items.map fun item =>
      if item.handle = entry.handle then { item with fields := (item.fields ++ roles).eraseDups } else item
  else items ++ [{ handle := entry.handle, origins := [entry.origin], fields := roles, approvalMode := "FULL", submit := true }]

def pendingSealed (input : DelegatePendingRequest) (delegation : Issued VaultDelegationClaims) (moment : Moment)
    (broker : Broker) : Outcome × Broker :=
  let generation := delegation.claims.generation
  let key := VaultKey.delegation input.scope generation
  match openVaultEnvelope key input.keyEnvelope (delegationContext .fillKey input.scope generation) with
  | none => refuse .keyRefused broker
  | some fillKey =>
    match openVaultEnvelope key input.inboxKeyEnvelope (delegationContext .inboxKey input.scope generation) with
    | none => refuse .keyRefused broker
    | some inboxKey =>
      match sealEntry platform input.scope generation input.entry fillKey inboxKey with
      | none => refuse .entryRefused broker
      | some fieldEnvelopes =>
        (.waits (.pendingSigning
            { claims := { delegation.claims with
                certId := moment.drawn
                items := extendItems delegation.claims.items input.entry (fieldEnvelopes.map (·.1)) }
              basis := delegation.basis }
            fieldEnvelopes), broker)

def USE_TTL_MS : ℤ := 60000

def useClaims (input : UseRequest) (delegation : VaultDelegationClaims) (nonce : Nat) (now : ℤ) : VaultUseClaims where
  certId := delegation.certId
  scope := input.scope
  generation := delegation.generation
  epoch := input.epoch
  handle := input.handle
  origin := input.origin
  fields := input.fields
  submit := input.submit
  paneId := input.paneId
  targetId := input.targetId
  pageId := input.pageId
  frameId := input.frameId
  nonce := nonce
  issuedAt := now - 1000
  expiresAt := now + USE_TTL_MS
  generate := input.generate

/-- The capability is outstanding from here on, and the ones whose time is up no more. -/
def addOutstanding (broker : Broker) (claims : VaultUseClaims) (now : ℤ) : Broker :=
  let current := fun nonce => (broker.outstanding nonce).filter fun other => now < other.expiresAt
  { broker with
    outstanding := Function.update current claims.nonce (some claims)
    nonces := broker.nonces + 1 }

def useVerified (input : UseRequest) (asked : ℤ) (moment : Moment) (broker : Broker) : Outcome × Broker :=
  match verifyDelegation platform broker input.certificate asked with
  | none => refuse .certificateRefused broker
  | some delegation =>
    if delegation.claims.scope ≠ input.scope then refuse .certificateRefused broker
    else if delegation.claims.generation < broker.floors input.scope then refuse .generationRetired broker
    else
      match delegation.claims.items.find? fun item => item.handle = input.handle with
      | none => refuse .notDelegated broker
      | some item =>
        if (input.fields.any fun field => field ∉ item.fields) || input.origin ∉ item.origins ||
            (input.submit && !item.submit) then
          refuse .notDelegated broker
        else
          let claims := useClaims input delegation.claims broker.nonces moment.now
          (.waits (.useSigning { claims, basis := delegation.basis }), addOutstanding broker claims moment.now)

def fillVerified (input : FillRequest) (asked : ℤ) (broker : Broker) : Outcome × Broker :=
  match verifyCapability platform broker input.capability asked with
  | none => refuse .capabilityRefused broker
  | some issued =>
    let claims := issued.claims
    let known := broker.outstanding claims.nonce
    let taken := { broker with outstanding := Function.update broker.outstanding claims.nonce none }
    if known ≠ some claims then refuse .capabilityUsed taken
    else if claims.generation < taken.floors claims.scope then refuse .generationRetired taken
    else (.waits (.fillOpening input claims), taken)

/-- The fields of a fill, one after the other: none where one does not open. -/
def openFields (fillKey : String) (claims : VaultUseClaims) (envelopes : List (VaultFieldRole × VaultEnvelope)) :
    List VaultFieldRole → List (VaultFieldRole × String) → Option (List (VaultFieldRole × String))
  | [], fields => some fields
  | role :: roles, fields =>
    match envelopes.lookup role with
    | none => openFields fillKey claims envelopes roles fields
    | some envelope =>
      match openVaultEnvelope (.material fillKey) envelope
          (fillContext claims.scope claims.handle role claims.generation) with
      | none => none
      | some plain =>
        openFields fillKey claims envelopes roles (fields.filter (fun field => field.1 ≠ role) ++ [(role, plain)])

def fillOpened (input : FillRequest) (claims : VaultUseClaims) (broker : Broker) : Outcome × Broker :=
  match openVaultEnvelope (.delegation claims.scope claims.generation) input.keyEnvelope
      (delegationContext .fillKey claims.scope claims.generation) with
  | none => refuse .keyRefused broker
  | some fillKey =>
    -- a generating fill types a fresh password, and no stored field leaves
    match openFields fillKey claims input.fieldEnvelopes (if claims.generate.isSome then [] else claims.fields) [] with
    | none => refuse .fieldRefused broker
    | some fields => (.answers (.filled fields input.replyPublicKey), broker)

def MS_PER_DAY : ℤ := 86400000

def SIGNUP_MAX_DAYS : ℤ := 90

def AUTO_GRANT_TTL_MS : ℤ := 600000

def utcDay (now : ℤ) : ℤ := now / MS_PER_DAY

/-- `issuedAt <= (voidBefore ?? "")` -/
def voided (signups : Signups) (scope : VaultScope) (issuedAt : ℤ) : Bool :=
  (signups.voidBefore scope).any fun time => issuedAt ≤ time

def grantOpened (signed : List OperatorSignature) (input : SignupGrantRequest) (moment : Moment) (broker : Broker) :
    Outcome × Broker :=
  match openShare platform input.scope input.unlockPublicKey input.serverShareEnvelope with
  | none => refuse .shareRefused broker
  | some _ =>
    if verifyVaultMessage signed input.unlockPublicKey (vaultSignupGrantOperatorMessage input) input.operatorSignature = false then
      refuse .operatorSignatureRefused broker
    else if ¬ (moment.now < input.expiresAt ∧ input.expiresAt ≤ moment.now + SIGNUP_MAX_DAYS * MS_PER_DAY) then
      refuse .expired broker
    else if input.grantId ∈ broker.signups.revoked then refuse .revoked broker
    else
      (.waits (.grantSigning {
        claims := {
          grantId := input.grantId
          scope := input.scope
          sites := sorted id input.sites
          dailyCap := input.dailyCap
          unlockEpoch := input.unlockEpoch
          issuedAt := moment.now
          expiresAt := input.expiresAt }
        basis := vaultSignupGrantOperatorMessage input }), broker)

/-- One more use of the grant that day; older days are dropped. -/
def countUse (uses : String × ℤ → Nat) (grantId : String) (day : ℤ) : String × ℤ → Nat :=
  Function.update (fun use => if use.2 = day then uses use else 0) (grantId, day) (uses (grantId, day) + 1)

def signupVerified (input : SignupRequest) (asked : ℤ) (moment : Moment) (broker : Broker) : Outcome × Broker :=
  match verifyVaultCertificate platform.parsesGrant (·.issuedAt) (·.expiresAt) broker.grants input.certificate asked with
  | .error .expired => refuse .expired broker
  | .error .badSignature => refuse .certificateRefused broker
  | .ok grant =>
    let claims := grant.claims
    if claims.scope ≠ input.scope then refuse .certificateRefused broker
    else if claims.grantId ∈ broker.signups.revoked ∨ voided broker.signups input.scope claims.issuedAt = true then
      refuse .revoked broker
    else if input.origin ∉ claims.sites then refuse .originMismatch broker
    else
      let day := utcDay moment.now
      let use := broker.signups.uses (claims.grantId, day)
      if claims.dailyCap ≤ use then refuse .dailyCap broker
      else
        match platform.generateVaultPassword input.field moment.drawn with
        | none => refuse .policyUnsatisfiable broker
        | some password =>
          -- the use counts before anything leaves
          (.waits (.signupSealing input password day use),
            broker.saveSignups { broker.signups with uses := countUse broker.signups.uses claims.grantId day })

def autoGrantVerified (input : AutoGrantRequest) (asked : ℤ) (moment : Moment) (broker : Broker) : Outcome × Broker :=
  match verifyDelegation platform broker input.certificate asked with
  | none => refuse .certificateRefused broker
  | some delegation =>
    let claims := delegation.claims
    if claims.scope ≠ input.scope then refuse .certificateRefused broker
    else if claims.generation < broker.floors input.scope ∨ voided broker.signups input.scope claims.issuedAt = true then
      refuse .revoked broker
    else if platform.vaultSignupSite input.origin ≠ some input.origin then refuse .originMismatch broker
    else
      (.waits (.grantSigning {
        claims := {
          grantId := moment.drawn
          scope := input.scope
          sites := [input.origin]
          dailyCap := 1
          unlockEpoch := claims.unlockEpoch
          issuedAt := moment.now
          expiresAt := moment.now + AUTO_GRANT_TTL_MS }
        basis := delegation.basis }), broker)

def signupRevoke (input : SignupRevokeRequest) (broker : Broker) : Outcome × Broker :=
  (.answers .grantRevoked,
    if input.grantId ∈ broker.signups.revoked then broker
    else broker.saveSignups { broker.signups with revoked := broker.signups.revoked ++ [input.grantId] })

def voidGrants (broker : Broker) (scope : VaultScope) (now : ℤ) : Broker :=
  broker.saveSignups { broker.signups with voidBefore := Function.update broker.signups.voidBefore scope (some now) }

def dropOutstanding (broker : Broker) (scope : VaultScope) : Broker :=
  { broker with outstanding := fun nonce => (broker.outstanding nonce).filter fun claims => claims.scope ≠ scope }

@[grind] def revoke (input : RevokeRequest) (moment : Moment) (broker : Broker) : Outcome × Broker :=
  let raised := broker.raiseFloor input.scope input.generation
  let revoked := dropOutstanding (voidGrants raised input.scope moment.now) input.scope
  (.answers (.floor (revoked.floors input.scope)), revoked)

/-- The first piece, up to the first await. -/
def arrive (request : VaultRequest) (moment : Moment) (broker : Broker) : Outcome × Broker :=
  if platform.parses request = false then refuse .badRequest broker
  else
    match request with
    | .delegate input => (.waits (.delegateOpening input), broker)
    | .delegatePending input => (.waits (.pendingVerifying input moment.now), broker)
    | .use input => (.waits (.useVerifying input moment.now), broker)
    | .fill input => (.waits (.fillVerifying input moment.now), broker)
    | .revoke input => revoke input moment broker
    | .signupGrant input => (.waits (.grantOpening input), broker)
    | .signup input => (.waits (.signupVerifying input moment.now), broker)
    | .signupAutoGrant input => (.waits (.autoGrantVerifying input moment.now), broker)
    | .signupRevoke input => signupRevoke input broker

/-- The piece after an await. -/
def proceed (signed : List OperatorSignature) (task : Task) (moment : Moment) (broker : Broker) : Outcome × Broker :=
  match task with
  | .delegateOpening input => delegateOpened platform signed input moment broker
  | .delegateSealing input => delegateSealed platform input moment broker
  | .delegateSigning issued keyEnvelope inboxKeyEnvelope =>
    (.answers (.delegated issued.claims keyEnvelope inboxKeyEnvelope),
      { broker with delegations := broker.delegations ++ [issued] })
  | .pendingVerifying input asked => pendingVerified platform input asked broker
  | .pendingSealing input delegation => pendingSealed platform input delegation moment broker
  | .pendingSigning issued fieldEnvelopes =>
    (.answers (.extended issued.claims fieldEnvelopes), { broker with delegations := broker.delegations ++ [issued] })
  | .useVerifying input asked => useVerified platform input asked moment broker
  | .useSigning issued =>
    (.answers (.capability issued.claims), { broker with capabilities := broker.capabilities ++ [issued] })
  | .fillVerifying input asked => fillVerified platform input asked broker
  | .fillOpening input claims => fillOpened input claims broker
  | .grantOpening input => grantOpened platform signed input moment broker
  | .grantSigning issued => (.answers (.granted issued.claims), { broker with grants := broker.grants ++ [issued] })
  | .signupVerifying input asked => signupVerified platform input asked moment broker
  | .signupSealing input password day use =>
    (.answers (.generated password input.inboxPublicKey input.roles input.replyPublicKey day use), broker)
  | .autoGrantVerifying input asked => autoGrantVerified platform input asked moment broker

end

structure Running where
  request : VaultRequest
  began : Nat
  task : Task
  deriving DecidableEq

structure Call where
  name : Nat
  request : VaultRequest
  began : Nat
  answered : Nat
  answer : VaultAnswer
  deriving DecidableEq

/-- The broker and its requests. The history and the number of steps are read by no step. -/
structure World where
  broker : Broker := {}
  /-- What was signed with unlock keys, and in which step. -/
  operator : List (OperatorSignature × Nat) := []
  running : Nat → Option Running := fun _ => none
  history : List Call := []
  steps : Nat := 0

inductive Event where
  | signs (signature : OperatorSignature)
  | arrives (name : Nat) (request : VaultRequest) (moment : Moment)
  | proceeds (name : Nat) (moment : Moment)
  | restarts
  | tearsRevoke (input : RevokeRequest)
  deriving DecidableEq

namespace World

/-- What is left of a stopped process: its files, and what was signed. -/
def restarted (world : World) : World :=
  { world with
    broker := { world.broker with
      floors := world.broker.storedFloors
      signups := world.broker.storedSignups
      outstanding := fun _ => none }
    running := fun _ => none }

def known (world : World) (name : Nat) : Bool :=
  (world.running name).isSome || world.history.any fun call => call.name = name

def settle (world : World) (name : Nat) (request : VaultRequest) (began : Nat) (outcome : Outcome × Broker) : World :=
  match outcome with
  | (.waits task, broker) =>
    { world with broker, running := Function.update world.running name (some { request, began, task }) }
  | (.answers answer, broker) =>
    { world with
      broker
      running := Function.update world.running name none
      history := world.history ++ [{ name, request, began, answered := world.steps, answer }] }

variable (platform : Platform)

def perform (world : World) : Event → World
  | .signs signature => { world with operator := world.operator ++ [(signature, world.steps)] }
  | .arrives name request moment =>
    if world.known name then world
    else world.settle name request world.steps (arrive platform request moment world.broker)
  | .proceeds name moment =>
    match world.running name with
    | none => world
    | some running =>
      world.settle name running.request running.began
        (proceed platform (world.operator.map (·.1)) running.task moment world.broker)
  | .restarts => world.restarted
  | .tearsRevoke input =>
    if platform.parses (.revoke input) = false then world
    else { world with broker := world.broker.raiseFloor input.scope input.generation }.restarted

def step (world : World) (event : Event) : World :=
  { world.perform platform event with steps := world.steps + 1 }

end World

end SpaceApp.Vault
