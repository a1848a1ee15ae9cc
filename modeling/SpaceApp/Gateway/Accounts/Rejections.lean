import SpaceApp.Gateway.Accounts.Credentials

/-! `AccountPool.refreshRejectedToken`: the account to retry a request on, after the provider
rejected its access token.
-/

set_option autoImplicit false

namespace SpaceApp.Gateway.Accounts

open SpaceApp.Foundation SpaceApp.Gateway.Router

/-- What asking the provider for a new token brings. -/
inductive TokenAnswer where
  | refreshed (planType : Option String) (at_ : ℚ)
  | refused
  | unreachable

structure LockedRow (accountId : String) where
  fresh : GatewayAccountRecord
  own : fresh.id = accountId
  refreshToken : Bool := true
  answer : TokenAnswer

/-- What the lock finds: nothing where the row is gone, and an error where storage fails. -/
inductive Locked (accountId : String) where
  | row (row : LockedRow accountId)
  | gone
  | failed

structure RejectionWorld where
  now : ℚ
  cipher : Bool := true
  locked : (accountId : String) → Locked accountId
  marksFail : Bool := false

def refreshedRow (fresh : GatewayAccountRecord) (planType : Option String) (refreshedAt : ℚ) : GatewayAccountRecord :=
  { fresh with
    planType := planType <|> fresh.planType
    status := if fresh.status = .reauthRequired then .active else fresh.status
    lastRefreshAt := some refreshedAt }

def renewedRow {accountId : String} (account : GatewayAccountRecord) (row : LockedRow accountId) :
    Option GatewayAccountRecord :=
  if row.fresh.lastRefreshAt ≠ account.lastRefreshAt then some row.fresh
  else if row.refreshToken = false then none
  else
    match row.answer with
    | .refreshed planType at_ => some (refreshedRow row.fresh planType at_)
    | .refused | .unreachable => none

/-- An error is a thrown one. -/
def refreshRejectedToken (platform : Platform) (world : RejectionWorld) (account : GatewayAccountRecord)
    (code : JsString) : Except Unit (Option GatewayAccountRecord) :=
  let marked : Except Unit (Option GatewayAccountRecord) := if world.marksFail then .error () else .ok none
  if world.cipher = false ∨ Codex.isOneOf accessTokenRejections code = false ∨
      world.now - account.lastRefreshAt.getD 0 < FORCED_REFRESH_MIN_AGE_MS then marked
  else
    match world.locked account.id with
    | .failed => .ok none
    | .gone => marked
    | .row row =>
        match renewedRow account row with
        | some renewed => if isGatewayFreePlan platform renewed.planType then marked else .ok (some renewed)
        | none =>
            match row.refreshToken, row.answer with
            | true, .unreachable => .ok none
            | _, _ => marked

theorem refreshRejectedToken_renews {platform : Platform} {world : RejectionWorld} {account renewed : GatewayAccountRecord}
    {code : JsString} (returns : refreshRejectedToken platform world account code = .ok (some renewed)) :
    FORCED_REFRESH_MIN_AGE_MS ≤ world.now - account.lastRefreshAt.getD 0 ∧
      ∃ row, world.locked account.id = .row row ∧ renewed.id = account.id ∧
        ((row.fresh.lastRefreshAt ≠ account.lastRefreshAt ∧ renewed.lastRefreshAt = row.fresh.lastRefreshAt) ∨
          ∃ planType at_, row.answer = .refreshed planType at_ ∧ renewed.lastRefreshAt = some at_) := by
  have marked : ∀ failing : Bool, (if failing = true then Except.error () else Except.ok none) ≠
      (Except.ok (some renewed) : Except Unit (Option GatewayAccountRecord)) := by
    intro failing same
    cases failing <;> cases same
  unfold refreshRejectedToken at returns
  dsimp only at returns
  split at returns
  · exact absurd returns (marked _)
  next old =>
  simp only [not_or, not_lt] at old
  refine ⟨old.2.2, ?_⟩
  split at returns
  · cases returns
  · exact absurd returns (marked _)
  next row found =>
  split at returns
  · next next_ renews =>
    split at returns
    · exact absurd returns (marked _)
    cases returns
    refine ⟨row, found, ?_⟩
    unfold renewedRow at renews
    split at renews
    · next other =>
      cases renews
      exact ⟨row.own, .inl ⟨other, rfl⟩⟩
    · split at renews
      · cases renews
      · split at renews
        · next planType at_ answer =>
          cases renews
          exact ⟨row.own, .inr ⟨planType, at_, answer, rfl⟩⟩
        · cases renews
        · cases renews
  · split at returns
    · cases returns
    · exact absurd returns (marked _)

end SpaceApp.Gateway.Accounts
