import SpaceApp.Gateway.BoundedMap
import SpaceApp.Gateway.Router.Balancer

/-! Conversation-to-account bindings (`accounts/sticky-store.ts`), kept in memory and
written behind to storage. Times are milliseconds; a read that asks storage is cut at its
await.
-/

set_option autoImplicit false

namespace SpaceApp.Gateway.Accounts

def memoryLimit : Nat := 8192
def negativeMs : ℚ := 60000

inductive GatewayStickyKind where
  | codexSession | stickyThread | promptCache | continuation
  deriving DecidableEq, Repr

structure GatewayStickyBinding where
  keyHash : String
  kind : GatewayStickyKind
  provider : String
  accountId : String
  expiresAt : Option ℚ
  deriving DecidableEq, Repr

structure StickyOptions where
  repository : Bool := true
  provider : String
  kind : GatewayStickyKind

structure Remembered where
  accountId : String
  expiresAt : ℚ
  deriving DecidableEq, Repr

structure StickyStore where
  memory : BoundedMap Remembered memoryLimit := .empty
  /-- When storage last had nothing; `none` (minus infinity in the source) once a binding is set. -/
  misses : BoundedMap (Option ℚ) memoryLimit := .empty
  pending : List GatewayStickyBinding := []
  timer : Bool := false

inductive Lookup where
  | answered (accountId : Option String)
  | askStorage
  deriving DecidableEq, Repr

def setPending (row : GatewayStickyBinding) : List GatewayStickyBinding → List GatewayStickyBinding
  | [] => [row]
  | other :: rest => if other.keyHash = row.keyHash then row :: rest else other :: setPending row rest

namespace StickyStore

/-- `get` up to its await. -/
def get (store : StickyStore) (options : StickyOptions) (keyHash : String) (now : ℚ) : Lookup :=
  match (store.memory.get keyHash).filter fun cached => decide (now < cached.expiresAt) with
  | some cached => .answered (some cached.accountId)
  | none =>
      if ((store.misses.get keyHash).any fun missedAt => missedAt.any fun time => decide (now - time < negativeMs)) then
        .answered none
      else if options.repository then .askStorage
      else .answered none

/-- The rest of `get`, once storage answered; a failed read is an answer without a row. `now`
is the time the read began. -/
def found (store : StickyStore) (keyHash : String) (now ttl : ℚ) :
    Option GatewayStickyBinding → StickyStore × Option String
  | some stored =>
      ({ store with memory := store.memory.set keyHash {
          accountId := stored.accountId, expiresAt := stored.expiresAt.getD (now + ttl) } },
        some stored.accountId)
  | none => ({ store with misses := store.misses.set keyHash (some now) }, none)

def set (store : StickyStore) (options : StickyOptions) (keyHash accountId : String) (now ttl : ℚ) : StickyStore :=
  let expiresAt := now + ttl
  let remembered := { store with
    memory := store.memory.set keyHash { accountId, expiresAt }
    misses := store.misses.set keyHash none }
  if options.repository then
    { remembered with
      pending := setPending {
        keyHash, kind := options.kind, provider := options.provider, accountId
        expiresAt := some expiresAt } store.pending
      timer := true }
  else remembered

/-- `flush` up to its await: the rows it hands to storage. -/
def flush (store : StickyStore) : StickyStore × List GatewayStickyBinding :=
  ({ store with pending := [], timer := false }, store.pending)

end StickyStore

end SpaceApp.Gateway.Accounts
