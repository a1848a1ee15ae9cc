import Mathlib.Data.List.Sort
import SpaceApp.Foundation.JsText

/-! What the vault's parties seal, sign and ask (`contracts/src/vault.ts`, `vault-crypto.ts`,
the schemas of `vault/broker-server.ts`).

Signatures and envelopes cannot be forged: a signature is what it was made over, and an envelope
is its key, its associated data and its content. Times are milliseconds.
-/

set_option autoImplicit false

namespace SpaceApp.Vault

open SpaceApp.Foundation

structure VaultScope where
  ownerUserId : String
  vaultId : String
  deriving DecidableEq

inductive VaultFieldRole where
  | username | password | otp
  deriving DecidableEq

def VaultFieldRole.text : VaultFieldRole → String
  | .username => "USERNAME"
  | .password => "PASSWORD"
  | .otp => "OTP"

inductive VaultGenerateRole where
  | newPassword | confirmPassword
  deriving DecidableEq

inductive VaultEnvelopePurpose where
  | serverShare | fillKey | fillField | inboxKey | transport
  deriving DecidableEq

inductive VaultKey where
  | serverShare (scope : VaultScope) (unlockPublicKey : String)
  | delegation (scope : VaultScope) (generation : Nat)
  /-- What only the holder of a private key opens. -/
  | recipient (publicKey : String)
  | material (key : String)
  deriving DecidableEq

structure VaultAadContext where
  purpose : VaultEnvelopePurpose
  scope : VaultScope
  itemId : Option String := none
  field : Option VaultFieldRole := none
  generation : Option Nat := none
  deriving DecidableEq

structure VaultEnvelope where
  key : VaultKey
  context : VaultAadContext
  content : String
  deriving DecidableEq

def openVaultEnvelope (key : VaultKey) (envelope : VaultEnvelope) (context : VaultAadContext) : Option String :=
  if envelope.key = key ∧ envelope.context = context then some envelope.content else none

def sealToVaultPublicKey (publicKey content : String) (scope : VaultScope) : VaultEnvelope where
  key := .recipient publicKey
  context := { purpose := .transport, scope }
  content := content

def openWithVaultPrivateKey (publicKey : String) (envelope : VaultEnvelope) (scope : VaultScope) : Option String :=
  openVaultEnvelope (.recipient publicKey) envelope { purpose := .transport, scope }

structure DelegatedItem where
  handle : String
  origins : List String
  fields : List VaultFieldRole
  approvalMode : String
  submit : Bool
  deriving DecidableEq

structure VaultDelegationClaims where
  certId : String
  scope : VaultScope
  generation : Nat
  unlockEpoch : Nat
  items : List DelegatedItem
  envelopeDigest : String
  issuedAt : ℤ
  expiresAt : ℤ
  deriving DecidableEq

structure VaultGenerate where
  roles : List VaultGenerateRole
  inboxPublicKey : String
  deriving DecidableEq

structure VaultUseClaims where
  certId : String
  scope : VaultScope
  generation : Nat
  epoch : Nat
  handle : String
  origin : String
  fields : List VaultFieldRole
  submit : Bool
  paneId : String
  targetId : String
  pageId : String
  frameId : String
  /-- Random, so drawn once: the draws are numbered. -/
  nonce : Nat
  issuedAt : ℤ
  expiresAt : ℤ
  generate : Option VaultGenerate
  deriving DecidableEq

structure VaultSignupGrantClaims where
  grantId : String
  scope : VaultScope
  sites : List String
  dailyCap : Nat
  unlockEpoch : Nat
  issuedAt : ℤ
  expiresAt : ℤ
  deriving DecidableEq

/-- A certificate as a caller presents it, its signature made over `sig`. -/
structure VaultCertificate (Claims : Type) where
  claims : Claims
  sig : Claims
  deriving DecidableEq

/-- `[...values].sort()`, by the text of each value. -/
def sorted {Value : Type} (text : Value → String) (values : List Value) : List Value :=
  values.insertionSort fun a b => textLess (text b) (text a) = false

theorem sorted_perm {Value : Type} (text : Value → String) (values : List Value) : (sorted text values).Perm values :=
  List.perm_insertionSort _ values

structure DelegationStatement where
  scope : VaultScope
  envelopeDigest : String
  generation : Nat
  unlockEpoch : Nat
  expiresAt : ℤ
  items : List DelegatedItem
  deriving DecidableEq

structure SignupGrantStatement where
  scope : VaultScope
  grantId : String
  sites : List String
  dailyCap : Nat
  unlockEpoch : Nat
  expiresAt : ℤ
  deriving DecidableEq

inductive OperatorStatement where
  | delegation (statement : DelegationStatement)
  | signupGrant (statement : SignupGrantStatement)
  deriving DecidableEq

structure OperatorSignature where
  unlockPublicKey : String
  statement : OperatorStatement
  deriving DecidableEq

structure DelegateRequest where
  scope : VaultScope
  generation : Nat
  unlockEpoch : Nat
  envelopeDigest : String
  expiresAt : ℤ
  items : List DelegatedItem
  sealedFillKey : VaultEnvelope
  operatorSignature : OperatorSignature
  unlockPublicKey : String
  serverShareEnvelope : VaultEnvelope
  sealedInboxKey : Option VaultEnvelope
  deriving DecidableEq

def vaultDelegationOperatorMessage (input : DelegateRequest) : OperatorStatement := .delegation {
  scope := input.scope
  envelopeDigest := input.envelopeDigest
  generation := input.generation
  unlockEpoch := input.unlockEpoch
  expiresAt := input.expiresAt
  items := input.items.map fun item =>
    { item with origins := sorted id item.origins, fields := sorted VaultFieldRole.text item.fields } }

structure PendingEntry where
  handle : String
  origin : String
  sealedUsername : Option VaultEnvelope
  sealedPassword : Option VaultEnvelope
  deriving DecidableEq

structure DelegatePendingRequest where
  scope : VaultScope
  certificate : VaultCertificate VaultDelegationClaims
  keyEnvelope : VaultEnvelope
  inboxKeyEnvelope : VaultEnvelope
  entry : PendingEntry
  deriving DecidableEq

structure UseRequest where
  scope : VaultScope
  certificate : VaultCertificate VaultDelegationClaims
  epoch : Nat
  handle : String
  fields : List VaultFieldRole
  submit : Bool
  paneId : String
  targetId : String
  pageId : String
  frameId : String
  origin : String
  generate : Option VaultGenerate
  deriving DecidableEq

structure FillRequest where
  capability : VaultCertificate VaultUseClaims
  keyEnvelope : VaultEnvelope
  fieldEnvelopes : List (VaultFieldRole × VaultEnvelope)
  replyPublicKey : String
  deriving DecidableEq

structure RevokeRequest where
  scope : VaultScope
  generation : Nat
  deriving DecidableEq

structure SignupGrantRequest where
  scope : VaultScope
  grantId : String
  sites : List String
  dailyCap : Nat
  unlockEpoch : Nat
  expiresAt : ℤ
  operatorSignature : OperatorSignature
  unlockPublicKey : String
  serverShareEnvelope : VaultEnvelope
  deriving DecidableEq

def vaultSignupGrantOperatorMessage (input : SignupGrantRequest) : OperatorStatement := .signupGrant {
  scope := input.scope
  grantId := input.grantId
  sites := sorted id input.sites
  dailyCap := input.dailyCap
  unlockEpoch := input.unlockEpoch
  expiresAt := input.expiresAt }

/-- The length limits of a page's field. -/
structure SignupField where
  minLength : Option Nat
  maxLength : Option Nat
  deriving DecidableEq

structure SignupRequest where
  scope : VaultScope
  certificate : VaultCertificate VaultSignupGrantClaims
  origin : String
  paneId : String
  roles : List VaultGenerateRole
  inboxPublicKey : String
  replyPublicKey : String
  field : Option SignupField
  deriving DecidableEq

structure SignupRevokeRequest where
  scope : VaultScope
  grantId : String
  deriving DecidableEq

structure AutoGrantRequest where
  scope : VaultScope
  certificate : VaultCertificate VaultDelegationClaims
  origin : String
  deriving DecidableEq

inductive VaultRequest where
  | delegate (input : DelegateRequest)
  | delegatePending (input : DelegatePendingRequest)
  | use (input : UseRequest)
  | fill (input : FillRequest)
  | revoke (input : RevokeRequest)
  | signupGrant (input : SignupGrantRequest)
  | signup (input : SignupRequest)
  | signupAutoGrant (input : AutoGrantRequest)
  | signupRevoke (input : SignupRevokeRequest)
  deriving DecidableEq

end SpaceApp.Vault
