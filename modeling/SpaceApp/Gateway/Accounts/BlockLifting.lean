import SpaceApp.Foundation.Reach
import SpaceApp.Gateway.Accounts.Pool
import SpaceApp.Gateway.Router.Soundness

/-! Blocks of an account in three places: the runtime state, storage, and the records read
from it before. Does a block end only when its own time is over, and do storage and the
runtime agree on the newest?
-/

set_option autoImplicit false

namespace SpaceApp.Gateway.Accounts

open SpaceApp.Foundation SpaceApp.Gateway.Router

structure StoredState where
  status : BalancerAccountStatus
  blockedUntil : Option ℚ
  deriving DecidableEq

structure StateWrite where
  accountId : String
  state : StoredState

/-- A lift that changed the status: the reset of the account's newest block, and when. -/
structure Lift where
  newest : Option ℚ
  usageClear : Bool
  at_ : ℚ

/-- The pool, the storage, the writes under way to it and the records read from it. The code
reads neither `newest`, the reset of each account's last recorded block, nor the lifts. -/
structure BlockWorld where
  runtime : Runtime := Runtime.fresh
  clock : ℚ
  stored : String → StoredState
  writes : List StateWrite := []
  records : List GatewayAccountRecord := []
  newest : String → Option ℚ
  lifts : List Lift := []

inductive BlockEvent where
  | reload (account : GatewayAccountRecord)
  | markRateLimited (account : GatewayAccountRecord) (error : UpstreamError) (random : ℚ)
  | markQuotaExceeded (account : GatewayAccountRecord) (error : UpstreamError)
  | liftExpiredBlock (account : GatewayAccountRecord) (usageClear : Bool)
  | markSuccess (accountId : String) (stored : Option BalancerAccountStatus)
  | landed (position : Nat)
  | tick (now : ℚ)

/-- A time as storage keeps it: none for none and for zero. -/
def toIso (seconds : Option ℚ) : Option ℚ := seconds.filter (· ≠ 0)

namespace BlockWorld

def write (world : BlockWorld) (accountId : String) (state : StoredState) : BlockWorld :=
  { world with writes := world.writes ++ [{ accountId, state }] }

/-- `persistBlock`: the runtime at once, storage when the write lands. -/
def block (world : BlockWorld) (accountId : String) (runtime : Runtime) (state : AccountState) : BlockWorld :=
  { world with runtime, newest := Function.update world.newest accountId state.resetAt }.write accountId
    { status := state.status, blockedUntil := toIso state.resetAt }

/-- A paused account stays paused: only the operator resumes it. -/
def recordAccountState (stored : String → StoredState) (write : StateWrite) : String → StoredState :=
  if (stored write.accountId).status = .paused then stored
  else Function.update stored write.accountId write.state

/-- Whether `markSuccess` finds the account blocked and writes storage. -/
def wasBlocked (runtime : Runtime) (accountId : String) (stored : Option BalancerAccountStatus) : Bool :=
  (runtime accountId).status.any (· ≠ .active) || stored = some .rateLimited || stored = some .quotaExceeded

def step (platform : Platform) (world : BlockWorld) : BlockEvent → BlockWorld
  | .reload account => { world with records := account :: world.records }
  | .markRateLimited account error random =>
      let state := handleRateLimit platform (toBalancerState world.runtime account) error world.clock random
      world.block account.id (markRateLimited platform world.runtime account error world.clock random) state
  | .markQuotaExceeded account error =>
      let state := handleQuotaExceeded (toBalancerState world.runtime account) error world.clock
      world.block account.id (markQuotaExceeded world.runtime account error world.clock) state
  | .liftExpiredBlock account usageClear =>
      match liftExpiredBlock world.runtime account usageClear world.clock with
      | none => world
      | some runtime =>
          let lift := { newest := world.newest account.id, usageClear, at_ := world.clock }
          { world with runtime, lifts := lift :: world.lifts }.write account.id
            { status := .active, blockedUntil := none }
  | .markSuccess accountId stored =>
      let after := { world with runtime := markSuccess world.runtime accountId stored }
      if wasBlocked world.runtime accountId stored then
        after.write accountId { status := .active, blockedUntil := none }
      else after
  | .landed position =>
      match world.writes[position]? with
      | none => world
      | some write =>
          { world with
            stored := recordAccountState world.stored write
            writes := world.writes.eraseIdx position }
  | .tick now => { world with clock := now }

def start (world : BlockWorld) : Prop :=
  ∃ clock stored, world = { clock, stored, newest := fun accountId => (stored accountId).blockedUntil }

end BlockWorld

def RecordsRead (world : BlockWorld) : BlockEvent → Prop
  | .reload account =>
      account.status = (world.stored account.id).status ∧
        account.blockedUntil = (world.stored account.id).blockedUntil
  | .markRateLimited account _ _ | .markQuotaExceeded account _ | .liftExpiredBlock account _ =>
      account ∈ world.records
  | .markSuccess accountId stored =>
      ∀ status, stored = some status → ∃ account ∈ world.records, account.id = accountId ∧ account.status = status
  | .landed _ => True
  | .tick now => world.clock ≤ now

/-- The time of a block is over, or more than an hour away while the usage shows no limit. -/
def Over (reset : ℚ) (usageClear : Bool) (now : ℚ) : Prop :=
  reset ≤ now ∨ (usageClear = true ∧ 3600 < reset - now)

/-- No lift goes by a record whose block is over while the newest one is not; the writes to an
account land in their order; and no paused account is blocked. -/
def Settled (world : BlockWorld) : BlockEvent → Prop
  | .liftExpiredBlock account usageClear =>
      ∀ shown, account.blockedUntil = some shown → Over shown usageClear world.clock →
        ∃ reset, world.newest account.id = some reset ∧ Over reset usageClear world.clock
  | .landed position =>
      ∀ write, world.writes[position]? = some write →
        ∀ earlier ∈ world.writes.take position, earlier.accountId ≠ write.accountId
  | .markRateLimited account _ _ | .markQuotaExceeded account _ =>
      (world.stored account.id).status ≠ .paused
  | _ => True

def ReadSettled (world : BlockWorld) (event : BlockEvent) : Prop :=
  RecordsRead world event ∧ Settled world event

def settledState (world : BlockWorld) (accountId : String) : StoredState :=
  match (world.writes.filter fun write => write.accountId = accountId).getLast? with
  | some write => write.state
  | none => world.stored accountId

/-- Every lift was of a newest block whose time was over, the runtime's block is the newest,
and storage is about to hold what the runtime last learned. -/
structure BlocksHold (world : BlockWorld) : Prop where
  lifts : ∀ lift ∈ world.lifts, ∃ reset, lift.newest = some reset ∧ Over reset lift.usageClear lift.at_
  newest : ∀ accountId reset, (world.runtime accountId).resetAt = some reset → world.newest accountId = some reset
  agreed : ∀ accountId status, (world.runtime accountId).status = some status →
    settledState world accountId = { status, blockedUntil := toIso (world.runtime accountId).resetAt }

section

variable {world : BlockWorld}

theorem settledState_write (accountId : String) (state : StoredState) (other : String) :
    settledState (world.write accountId state) other =
      if other = accountId then state else settledState world other := by
  unfold settledState BlockWorld.write
  by_cases same : other = accountId
  · simp [same]
  · simp [same, Ne.symm same]

/-- A write that overtakes none of its account changes nothing in the end. -/
theorem settledState_landed {position : Nat} {write : StateWrite} (here : world.writes[position]? = some write)
    (first : ∀ earlier ∈ world.writes.take position, earlier.accountId ≠ write.accountId)
    (unpaused : (world.stored write.accountId).status ≠ .paused) (accountId : String) : settledState { world with
      stored := BlockWorld.recordAccountState world.stored write
      writes := world.writes.eraseIdx position } accountId = settledState world accountId := by
  obtain ⟨bound, there⟩ := List.getElem?_eq_some_iff.mp here
  have split : world.writes = world.writes.take position ++ write :: world.writes.drop (position + 1) := by
    rw [← there, List.getElem_cons_drop, List.take_append_drop]
  have erased : world.writes.eraseIdx position =
      world.writes.take position ++ world.writes.drop (position + 1) := List.eraseIdx_eq_take_drop_succ _ _
  unfold settledState
  simp only [erased, BlockWorld.recordAccountState, if_neg unpaused]
  by_cases same : write.accountId = accountId
  · subst same
    have none_ : (world.writes.take position).filter (fun other => other.accountId = write.accountId) = [] := by
      rw [List.filter_eq_nil_iff]
      intro earlier member
      simpa using first earlier member
    conv => rhs; rw [split]
    rw [List.filter_append, List.filter_append, none_, List.filter_cons_of_pos (by simp)]
    simp only [List.nil_append, Function.update_self]
    cases later : (world.writes.drop (position + 1)).filter (fun other => other.accountId = write.accountId) with
    | nil => rfl
    | cons next rest =>
      rw [List.getLast?_cons_cons, List.getLast?_cons]
  · conv => rhs; rw [split]
    rw [List.filter_append, List.filter_append, List.filter_cons_of_neg (by simpa using same)]
    rw [Function.update_of_ne (Ne.symm same)]

theorem liftExpiredBlock_some {runtime after : Runtime} {account : GatewayAccountRecord} {usageClear : Bool}
    {now : ℚ} (lifted : liftExpiredBlock runtime account usageClear now = some after) :
    (∃ reset, (account.blockedUntil <|> (runtime account.id).resetAt) = some reset ∧ Over reset usageClear now) ∧
      ((runtime account.id).status.getD account.status = .rateLimited ∨
        (runtime account.id).status.getD account.status = .quotaExceeded) ∧
      after = runtime.modify account.id fun live =>
        { live with status := some .active, resetAt := none, cooldownUntil := none } := by
  unfold liftExpiredBlock at lifted
  dsimp only at lifted
  split at lifted
  · cases lifted
  · next limited =>
    split at lifted
    · cases lifted
    · next due =>
      refine ⟨?_, ?_, (Option.some.inj lifted).symm⟩
      · cases until_ : (account.blockedUntil <|> (runtime account.id).resetAt) with
        | none => simp [until_] at due
        | some reset =>
          refine ⟨reset, rfl, ?_⟩
          simp only [until_, Option.all_some, decide_eq_true_eq] at due
          by_cases past : reset ≤ now
          · exact .inl past
          · exact .inr (by_contra fun kept => due ⟨not_le.mp past, kept⟩)
      · by_contra neither
        rw [not_or] at neither
        exact limited neither

end

/-- What holds in every state of a run whose steps are all settled. -/
structure Kept (world : BlockWorld) : Prop where
  hold : BlocksHold world
  written : ∀ write ∈ world.writes, write.state.status ≠ .paused ∧ (world.stored write.accountId).status ≠ .paused
  paused : ∀ accountId, (world.stored accountId).status = .paused →
    (world.runtime accountId).status = none ∧
      ∀ account ∈ world.records, account.id = accountId → account.status = .paused

theorem start_kept {world : BlockWorld} (start : BlockWorld.start world) : Kept world := by
  obtain ⟨clock, stored, rfl⟩ := start
  exact {
    hold := {
      lifts := fun lift member => absurd member List.not_mem_nil
      newest := fun accountId reset block => by cases block
      agreed := fun accountId status known => by cases known }
    written := fun write member => absurd member List.not_mem_nil
    paused := fun accountId paused => ⟨rfl, fun account member => absurd member List.not_mem_nil⟩ }

section

variable {world : BlockWorld}

theorem Kept.learn (kept : Kept world) {accountId : String} {status : BalancerAccountStatus} {reset : Option ℚ}
    {after : Runtime} {newest : String → Option ℚ} {lifts : List Lift}
    (unpaused : (world.stored accountId).status ≠ .paused) (active : status ≠ .paused)
    (learnt : (after accountId).status = some status) (blocked : (after accountId).resetAt = reset)
    (others : ∀ other, other ≠ accountId → after other = world.runtime other)
    (newer : ∀ time, reset = some time → newest accountId = some time)
    (kept_ : ∀ other, other ≠ accountId → newest other = world.newest other)
    (passed : ∀ lift ∈ lifts, ∃ time, lift.newest = some time ∧ Over time lift.usageClear lift.at_) :
    Kept ({ world with runtime := after, newest, lifts }.write accountId
      { status, blockedUntil := toIso reset }) where
  hold := {
    lifts := passed
    newest := by
      intro other time block
      by_cases same : other = accountId
      · subst same
        exact newer time (blocked.symm.trans block)
      · exact (kept_ other same).trans (kept.hold.newest other time (by rw [← others other same]; exact block))
    agreed := by
      intro other known here
      rw [settledState_write]
      by_cases same : other = accountId
      · subst same
        rw [if_pos rfl]
        have sameStatus : known = status := Option.some.inj (here.symm.trans learnt)
        rw [sameStatus]
        exact congrArg _ (congrArg toIso blocked.symm)
      · rw [if_neg same]
        have before : (world.runtime other).status = some known := by
          rw [← others other same]
          exact here
        have held := kept.hold.agreed other known before
        rw [← others other same] at held
        exact held }
  written := by
    intro write member
    rcases List.mem_append.mp member with member | member
    · exact kept.written write member
    · rw [List.mem_singleton.mp member]
      exact ⟨active, unpaused⟩
  paused := by
    intro other paused
    have apart : other ≠ accountId := by
      intro same
      subst same
      exact unpaused paused
    refine ⟨?_, (kept.paused other paused).2⟩
    exact (congrArg RuntimeState.status (others other apart)).trans (kept.paused other paused).1

theorem Kept.block (kept : Kept world) {account : GatewayAccountRecord} (state : AccountState)
    (unpaused : (world.stored account.id).status ≠ .paused) (limited : state.status ≠ .paused) :
    Kept (world.block account.id (persistBlock world.runtime account.id state) state) := by
  refine kept.learn unpaused limited ?_ ?_ ?_ ?_ ?_ kept.hold.lifts
  · simp [persistBlock]
  · simp [persistBlock]
  · intro other apart
    exact Runtime.modify_other _ _ apart
  · intro time same
    simp [same]
  · intro other apart
    simp [apart]

theorem Kept.lift (kept : Kept world) {account : GatewayAccountRecord} {usageClear : Bool} {platform : Platform}
    (read : account ∈ world.records) (settled : Settled world (.liftExpiredBlock account usageClear)) :
    Kept (world.step platform (.liftExpiredBlock account usageClear)) := by
  simp only [BlockWorld.step]
  cases lifted : liftExpiredBlock world.runtime account usageClear world.clock with
  | none => exact kept
  | some after =>
    obtain ⟨⟨reset, shown, due⟩, limited, same⟩ := liftExpiredBlock_some lifted
    have passed : ∃ time, world.newest account.id = some time ∧ Over time usageClear world.clock := by
      cases ownBlock : account.blockedUntil with
      | some time =>
        rw [ownBlock] at shown
        obtain rfl : time = reset := Option.some.inj shown
        exact settled time ownBlock due
      | none =>
        rw [ownBlock] at shown
        exact ⟨reset, kept.hold.newest account.id reset shown, due⟩
    have unpaused : (world.stored account.id).status ≠ .paused := by
      intro paused
      obtain ⟨unknown, records⟩ := kept.paused account.id paused
      rw [unknown, Option.getD_none, records account read rfl] at limited
      rcases limited with limited | limited <;> cases limited
    have learnt : (after account.id).status = some .active := by simp [same]
    have cleared : (after account.id).resetAt = none := by simp [same]
    refine kept.learn unpaused (by decide) learnt cleared ?_ ?_ ?_ ?_
    · intro other apart
      rw [same]
      exact Runtime.modify_other _ _ apart
    · intro time none_
      cases none_
    · intro other _
      rfl
    · intro lift member
      rcases List.mem_cons.mp member with rfl | member
      · exact passed
      · exact kept.hold.lifts lift member

section

variable {accountId : String} {stored : Option BalancerAccountStatus}

theorem markSuccess_blocked {runtime : Runtime} (blocked : BlockWorld.wasBlocked runtime accountId stored = true) :
    (markSuccess runtime accountId stored accountId).status = some .active ∧
      (markSuccess runtime accountId stored accountId).resetAt = none := by
  simp only [BlockWorld.wasBlocked, Bool.or_eq_true, decide_eq_true_eq, or_assoc] at blocked
  simp only [markSuccess, Runtime.modify_same]
  rw [if_pos (by simpa using blocked)]
  exact ⟨rfl, rfl⟩

theorem markSuccess_unblocked {runtime : Runtime} (unblocked : BlockWorld.wasBlocked runtime accountId stored = false)
    (other : String) : (markSuccess runtime accountId stored other).status = (runtime other).status ∧
      (markSuccess runtime accountId stored other).resetAt = (runtime other).resetAt := by
  by_cases same : other = accountId
  · subst same
    have not_ : ¬ BlockWorld.wasBlocked runtime other stored = true := by simp [unblocked]
    simp only [BlockWorld.wasBlocked, Bool.or_eq_true, decide_eq_true_eq, or_assoc] at not_
    simp only [markSuccess, Runtime.modify_same]
    rw [if_neg (by simpa using not_)]
    exact ⟨rfl, rfl⟩
  · unfold markSuccess
    rw [Runtime.modify_other _ _ same]
    exact ⟨rfl, rfl⟩

theorem Kept.success (kept : Kept world) {platform : Platform}
    (read : RecordsRead world (.markSuccess accountId stored)) :
    Kept (world.step platform (.markSuccess accountId stored)) := by
  simp only [BlockWorld.step]
  cases blocked : BlockWorld.wasBlocked world.runtime accountId stored with
  | true =>
    have unpaused : (world.stored accountId).status ≠ .paused := by
      intro paused
      obtain ⟨unknown, records⟩ := kept.paused accountId paused
      cases known : stored with
      | none => simp [BlockWorld.wasBlocked, unknown, known] at blocked
      | some status =>
        obtain ⟨account, member, same, shown⟩ := read status known
        have pausedStatus : status = .paused := shown.symm.trans (records account member same)
        simp [BlockWorld.wasBlocked, unknown, known, pausedStatus] at blocked
    obtain ⟨learnt, cleared⟩ := markSuccess_blocked blocked
    refine kept.learn unpaused (by decide) learnt cleared ?_ ?_ ?_ kept.hold.lifts
    · intro other apart
      exact Runtime.modify_other _ _ apart
    · intro time none_
      cases none_
    · intro other _
      rfl
  | false =>
    have same := markSuccess_unblocked blocked
    exact {
      hold := {
        lifts := kept.hold.lifts
        newest := fun other time block => kept.hold.newest other time ((same other).2.symm.trans block)
        agreed := fun other status known => by
          have held := kept.hold.agreed other status ((same other).1.symm.trans known)
          rw [← (same other).2] at held
          exact held }
      written := kept.written
      paused := fun other paused =>
        ⟨(same other).1.trans (kept.paused other paused).1, (kept.paused other paused).2⟩ }

end

theorem Kept.landed (kept : Kept world) {position : Nat} {platform : Platform}
    (settled : Settled world (.landed position)) : Kept (world.step platform (.landed position)) := by
  simp only [BlockWorld.step]
  cases here : world.writes[position]? with
  | none => exact kept
  | some write =>
    obtain ⟨active, unpaused⟩ := kept.written write (List.mem_of_getElem? here)
    have status : ∀ accountId, (BlockWorld.recordAccountState world.stored write accountId).status = .paused ↔
        (world.stored accountId).status = .paused := by
      intro accountId
      rw [BlockWorld.recordAccountState, if_neg unpaused]
      by_cases same : accountId = write.accountId
      · subst same
        simp [active, unpaused]
      · simp [same]
    exact {
      hold := {
        __ := kept.hold
        agreed := fun accountId known learnt =>
          (settledState_landed here (settled write here) unpaused accountId).trans
            (kept.hold.agreed accountId known learnt) }
      written := fun other member => by
        obtain ⟨activeOther, unpausedOther⟩ := kept.written other (List.mem_of_mem_eraseIdx member)
        exact ⟨activeOther, fun paused => unpausedOther ((status _).mp paused)⟩
      paused := fun accountId paused => kept.paused accountId ((status accountId).mp paused) }

theorem Kept.step (kept : Kept world) (platform : Platform) {event : BlockEvent}
    (allowed : ReadSettled world event) : Kept (world.step platform event) := by
  obtain ⟨read, settled⟩ := allowed
  cases event with
  | reload account =>
    refine ⟨{ kept.hold with }, kept.written, ?_⟩
    intro accountId paused
    refine ⟨(kept.paused accountId paused).1, ?_⟩
    intro record member same
    rcases List.mem_cons.mp member with rfl | member
    · rw [read.1, same]
      exact paused
    · exact (kept.paused accountId paused).2 record member same
  | markRateLimited account error random => exact kept.block _ settled (by simp [handleRateLimit])
  | markQuotaExceeded account error => exact kept.block _ settled (by simp [handleQuotaExceeded])
  | liftExpiredBlock account usageClear => exact kept.lift read settled
  | markSuccess accountId stored => exact kept.success read
  | landed position => exact kept.landed settled
  | tick now => exact { kept with hold := { kept.hold with } }

end

/-- In every run whose steps are settled, blocks are lifted only when their own time is over. -/
theorem settled_blocks_hold (platform : Platform) {world : BlockWorld}
    (reached : Reached BlockWorld.start ReadSettled (BlockWorld.step platform) world) : BlocksHold world := by
  have kept : Kept world := by
    refine reached.invariant (fun _ start => start_kept start) ?_
    intro before event holds allowed
    exact holds.step platform allowed
  exact kept.hold

def polledAccount : GatewayAccountRecord where
  id := "a"
  status := .rateLimited
  blockedUntil := some 900

def polledStart : BlockWorld where
  clock := 1000
  stored := fun _ => { status := .rateLimited, blockedUntil := some 900 }
  newest := fun _ => some 900

def polledRun (events : List BlockEvent) : BlockWorld := events.foldl (BlockWorld.step samplePlatform) polledStart

def usedUp : BlockEvent := .markQuotaExceeded polledAccount { resetsInSeconds := some 7200 }

theorem settled_blocks_hold_polled :
    BlocksHold (polledRun [.reload polledAccount, .liftExpiredBlock polledAccount false, usedUp]) ∧
      ((polledRun [.reload polledAccount, .liftExpiredBlock polledAccount false, usedUp]).runtime "a").resetAt =
        some 8200 := by
  refine ⟨settled_blocks_hold samplePlatform ?_, by decide +kernel⟩
  refine Reached.run (.start ⟨1000, _, rfl⟩) ⟨⟨⟨rfl, rfl⟩, trivial⟩, ⟨?_, ?_⟩, ⟨?_, ?_⟩, trivial⟩
  · exact List.mem_singleton_self _
  · intro shown same passed
    exact ⟨900, rfl, .inl (by decide +kernel)⟩
  · exact List.mem_singleton_self _
  · exact fun paused => by cases paused

/-- The poll waits with an old record while a request uses up the quota: the new block is lifted
two hours early. -/
theorem stale_record_lifts_block : ¬ ∀ (platform : Platform) (world : BlockWorld),
      Reached BlockWorld.start RecordsRead (BlockWorld.step platform) world → BlocksHold world := by
  intro always
  have reached : Reached BlockWorld.start RecordsRead (BlockWorld.step samplePlatform)
      (polledRun [.reload polledAccount, usedUp, .liftExpiredBlock polledAccount false]) := by
    refine Reached.run (.start ⟨1000, _, rfl⟩) ⟨⟨rfl, rfl⟩, ?_, ?_, trivial⟩
    · exact List.mem_singleton_self _
    · exact List.mem_singleton_self _
  have lifted : (polledRun [.reload polledAccount, usedUp, .liftExpiredBlock polledAccount false]).lifts.map
      (fun lift => (lift.newest, lift.usageClear, lift.at_)) = [(some 8200, false, 1000)] := by
    decide +kernel
  obtain ⟨lift, member, same⟩ := List.mem_map.mp (lifted ▸ List.mem_singleton_self (some 8200, false, 1000))
  obtain ⟨reset, newest, passed⟩ := (always samplePlatform _ reached).lifts lift member
  simp only [Prod.mk.injEq] at same
  rw [same.1] at newest
  obtain rfl : 8200 = reset := Option.some.inj newest
  rw [same.2.1, same.2.2] at passed
  rcases passed with past | ⟨clear, _⟩
  · exact absurd past (by decide +kernel)
  · cases clear

end SpaceApp.Gateway.Accounts
