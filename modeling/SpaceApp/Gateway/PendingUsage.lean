import Mathlib.Data.Rat.Defs
import Mathlib.Algebra.Order.Ring.Rat
import Mathlib.Algebra.BigOperators.Group.List.Basic
import Mathlib.Algebra.Order.BigOperators.Group.List
import Mathlib.Logic.Function.Basic

/-! Usage that a key's stored limits do not show yet (`policy.ts`): the requests running and the settlements
being written, for any order of their steps.
-/

set_option autoImplicit false

namespace SpaceApp.Gateway.Policy

structure Usage where
  inputTokens : ℕ
  outputTokens : ℕ
  costMicros : ℕ
  deriving DecidableEq

structure Pending where
  inFlight : ℤ
  costMicros : ℤ
  inputTokens : ℤ
  outputTokens : ℤ
  deriving DecidableEq

def Pending.zero : Pending := ⟨0, 0, 0, 0⟩

abbrev PendingByKey := String → Option Pending

def pendingOf (pendingByKey : PendingByKey) (keyId : String) : Pending := (pendingByKey keyId).getD Pending.zero

/-- What a caller of `pendingOf` writes to the entry it gets. -/
def change (pendingByKey : PendingByKey) (keyId : String) (write : Pending → Pending) : PendingByKey :=
  Function.update pendingByKey keyId (some (write (pendingOf pendingByKey keyId)))

def Pending.idle (pending : Pending) : Bool :=
  pending.inFlight ≤ 0 && pending.costMicros ≤ 0 && pending.inputTokens ≤ 0 && pending.outputTokens ≤ 0

def dropIfIdle (pendingByKey : PendingByKey) (keyId : String) : PendingByKey :=
  match pendingByKey keyId with
  | some pending => if pending.idle then Function.update pendingByKey keyId none else pendingByKey
  | none => pendingByKey

def Pending.track (pending : Pending) : Pending := { pending with inFlight := pending.inFlight + 1 }
def Pending.release (pending : Pending) : Pending := { pending with inFlight := pending.inFlight - 1 }

def Pending.add (usage : Usage) (pending : Pending) : Pending :=
  { pending with
    costMicros := pending.costMicros + usage.costMicros
    inputTokens := pending.inputTokens + usage.inputTokens
    outputTokens := pending.outputTokens + usage.outputTokens }

def Pending.subtract (usage : Usage) (pending : Pending) : Pending :=
  { pending with
    costMicros := pending.costMicros - usage.costMicros
    inputTokens := pending.inputTokens - usage.inputTokens
    outputTokens := pending.outputTokens - usage.outputTokens }

structure Request where
  keyId : String
  released : Bool

structure Settlement where
  keyId : String
  usage : Usage
  written : Bool

structure State where
  pendingByKey : PendingByKey
  requests : List Request
  settlements : List Settlement

def start : State := ⟨fun _ => none, [], []⟩

def trackKeyRequest (state : State) (keyId : String) : State :=
  { state with
    pendingByKey := change state.pendingByKey keyId Pending.track
    requests := state.requests ++ [⟨keyId, false⟩] }

/-- The function that the numbered `trackKeyRequest` returned. -/
def release (state : State) (number : ℕ) : State :=
  match state.requests[number]? with
  | none => state
  | some request =>
    if request.released then state
    else
      { state with
        pendingByKey := dropIfIdle (change state.pendingByKey request.keyId Pending.release) request.keyId
        requests := state.requests.set number { request with released := true } }

/-- Up to the write. -/
def trackKeySettlement (state : State) (keyId : String) (usage : Usage) : State :=
  { state with
    pendingByKey := change state.pendingByKey keyId (Pending.add usage)
    settlements := state.settlements ++ [⟨keyId, usage, false⟩] }

/-- After the write of the numbered settlement. -/
def settled (state : State) (number : ℕ) : State :=
  match state.settlements[number]? with
  | none => state
  | some settlement =>
    if settlement.written then state
    else
      { state with
        pendingByKey :=
          dropIfIdle (change state.pendingByKey settlement.keyId (Pending.subtract settlement.usage)) settlement.keyId
        settlements := state.settlements.set number { settlement with written := true } }

inductive Event where
  | request (keyId : String)
  | release (number : ℕ)
  | settlement (keyId : String) (usage : Usage)
  | written (number : ℕ)
  | failed (number : ℕ)

def step (state : State) : Event → State
  | .request keyId => trackKeyRequest state keyId
  | .release number => release state number
  | .settlement keyId usage => trackKeySettlement state keyId usage
  | .written number => settled state number
  -- the same `finally` runs, and the error goes on to the caller
  | .failed number => settled state number

def run (events : List Event) : State := events.foldl step start

inductive LimitType where
  | totalTokens
  | inputTokens
  | outputTokens
  | costUsd
  deriving DecidableEq

def LimitType.lower : LimitType → String
  | .totalTokens => "total_tokens"
  | .inputTokens => "input_tokens"
  | .outputTokens => "output_tokens"
  | .costUsd => "cost_usd"

inductive LimitWindow where
  | daily
  | weekly
  | monthly
  deriving DecidableEq

def LimitWindow.lower : LimitWindow → String
  | .daily => "daily"
  | .weekly => "weekly"
  | .monthly => "monthly"

structure Limit where
  limitType : LimitType
  limitWindow : LimitWindow
  currentValue : ℤ
  maxValue : ℤ
  modelFilter : Option String
  resetAt : String

structure Key where
  id : String
  limits : List Limit

structure PolicyRejection where
  statusCode : ℕ
  code : String
  message : String
  type : String
  deriving DecidableEq

/-- `reserve` is `costReserveMicros`. -/
def pendingValue (reserve : ℚ) (limit : Limit) (pending : Option Pending) : ℚ :=
  match pending, limit.modelFilter with
  | none, _ => 0
  | some _, some _ => 0
  | some pending, none =>
    match limit.limitType with
    | .costUsd => pending.costMicros + (max 0 (pending.inFlight - 1) : ℤ) * reserve
    | .totalTokens => pending.inputTokens + pending.outputTokens
    | .inputTokens => pending.inputTokens
    | .outputTokens => pending.outputTokens

def Limit.applies (limit : Limit) (model : Option String) (nowIso : String) : Bool :=
  (limit.modelFilter == none || limit.modelFilter == model) && !decide (limit.resetAt ≤ nowIso)

def Limit.rejection (limit : Limit) : PolicyRejection :=
  { statusCode := 429
    code := "rate_limit_exceeded"
    message := "API key " ++ limit.limitType.lower ++ " " ++ limit.limitWindow.lower ++ " limit exceeded" ++
      (match limit.modelFilter with
      | some filter => if filter = "" then "" else " for model " ++ filter
      | none => "")
    type := "rate_limit_error" }

def checkLimits (reserve : ℚ) (pending : Option Pending) (model : Option String) (nowIso : String) :
    List Limit → Except PolicyRejection Unit
  | [] => .ok ()
  | limit :: rest =>
    if limit.applies model nowIso && decide (limit.currentValue + pendingValue reserve limit pending ≥ limit.maxValue) then
      .error limit.rejection
    else checkLimits reserve pending model nowIso rest

def checkKeyLimits (reserve : ℚ) (pendingByKey : PendingByKey) (key : Option Key) (model : Option String) (nowIso : String) :
    Except PolicyRejection Unit :=
  match key with
  | none => .ok ()
  | some key => checkLimits reserve (pendingByKey key.id) model nowIso key.limits

def Request.counted (keyId : String) (request : Request) : ℤ :=
  if request.keyId = keyId && !request.released then 1 else 0

/-- A part of the usage of a settlement that is being written. -/
def Settlement.counted (keyId : String) (part : Usage → ℕ) (settlement : Settlement) : ℤ :=
  if settlement.keyId = keyId && !settlement.written then part settlement.usage else 0

def State.running (state : State) (keyId : String) : ℤ := (state.requests.map (Request.counted keyId)).sum

def State.writing (state : State) (keyId : String) (part : Usage → ℕ) : ℤ :=
  (state.settlements.map (Settlement.counted keyId part)).sum

/-- The key's unreleased requests, and the usage of its settlements that are being written. -/
def State.owed (state : State) (keyId : String) : Pending :=
  { inFlight := state.running keyId
    costMicros := state.writing keyId Usage.costMicros
    inputTokens := state.writing keyId Usage.inputTokens
    outputTokens := state.writing keyId Usage.outputTokens }

structure Pending.Nonneg (pending : Pending) : Prop where
  inFlight : 0 ≤ pending.inFlight
  costMicros : 0 ≤ pending.costMicros
  inputTokens : 0 ≤ pending.inputTokens
  outputTokens : 0 ≤ pending.outputTokens

/-- Some settlement of the key, of no usage, is being written. -/
def State.WritesNothing (state : State) (keyId : String) : Prop :=
  ∃ settlement ∈ state.settlements, settlement.keyId = keyId ∧ settlement.written = false ∧ settlement.usage = ⟨0, 0, 0⟩

theorem pendingOf_change (pendingByKey : PendingByKey) (keyId : String) (write : Pending → Pending) :
    pendingOf (change pendingByKey keyId write) keyId = write (pendingOf pendingByKey keyId) := by
  simp [change, pendingOf]

theorem change_other (pendingByKey : PendingByKey) {keyId other : String} (write : Pending → Pending)
    (distinct : other ≠ keyId) : change pendingByKey keyId write other = pendingByKey other := by
  rw [change, Function.update_of_ne distinct]

theorem idle_zero {pending : Pending} (nonneg : pending.Nonneg) (idle : pending.idle = true) : pending = Pending.zero := by
  obtain ⟨flight, cost, input, output⟩ := nonneg
  simp only [Pending.idle, Bool.and_eq_true, decide_eq_true_eq] at idle
  obtain ⟨inFlight, costMicros, inputTokens, outputTokens⟩ := pending
  simp only [Pending.zero, Pending.mk.injEq] at *
  omega

theorem zero_idle : Pending.zero.idle = true := by decide

theorem pendingOf_dropIfIdle {pendingByKey : PendingByKey} {keyId : String} (nonneg : (pendingOf pendingByKey keyId).Nonneg) :
    pendingOf (dropIfIdle pendingByKey keyId) keyId = pendingOf pendingByKey keyId := by
  cases found : pendingByKey keyId with
  | none => simp only [dropIfIdle, found]
  | some pending =>
    simp only [dropIfIdle, found]
    split
    · next idle =>
      simp only [pendingOf, found, Option.getD_some] at nonneg
      simp only [pendingOf, Function.update_self, found, Option.getD_some, Option.getD_none]
      exact (idle_zero nonneg idle).symm
    · rfl

theorem dropIfIdle_not_zero (pendingByKey : PendingByKey) (keyId : String) :
    dropIfIdle pendingByKey keyId keyId ≠ some Pending.zero := by
  intro zero
  cases found : pendingByKey keyId with
  | none => simp [dropIfIdle, found] at zero
  | some pending =>
    simp only [dropIfIdle, found] at zero
    split at zero
    · simp at zero
    · next busy =>
      rw [found, Option.some.injEq] at zero
      exact busy (zero ▸ zero_idle)

theorem dropIfIdle_other (pendingByKey : PendingByKey) {keyId other : String} (distinct : other ≠ keyId) :
    dropIfIdle pendingByKey keyId other = pendingByKey other := by
  cases found : pendingByKey keyId with
  | none => simp only [dropIfIdle, found]
  | some pending =>
    simp only [dropIfIdle, found]
    split
    · rw [Function.update_of_ne distinct]
    · rfl

theorem sum_set {Item : Type} (weigh : Item → ℤ) {items : List Item} {number : ℕ} {old : Item}
    (found : items[number]? = some old) (new : Item) :
    ((items.set number new).map weigh).sum = (items.map weigh).sum - weigh old + weigh new := by
  obtain ⟨inside, rfl⟩ := List.getElem?_eq_some_iff.mp found
  rw [List.map_set, List.sum_set', dif_pos (by simpa using inside), List.getElem_map]
  omega

theorem Request.counted_nonneg (keyId : String) (request : Request) : 0 ≤ request.counted keyId := by
  rw [Request.counted]
  split <;> omega

theorem Settlement.counted_nonneg (keyId : String) (part : Usage → ℕ) (settlement : Settlement) :
    0 ≤ settlement.counted keyId part := by
  rw [Settlement.counted]
  split <;> omega

theorem writing_nonneg (state : State) (keyId : String) (part : Usage → ℕ) : 0 ≤ state.writing keyId part := by
  refine List.sum_nonneg ?_
  intro value member
  obtain ⟨settlement, _, rfl⟩ := List.mem_map.mp member
  exact settlement.counted_nonneg keyId part

theorem owed_nonneg (state : State) (keyId : String) : (state.owed keyId).Nonneg := by
  refine ⟨?_, writing_nonneg state keyId _, writing_nonneg state keyId _, writing_nonneg state keyId _⟩
  refine List.sum_nonneg ?_
  intro value member
  obtain ⟨request, _, rfl⟩ := List.mem_map.mp member
  exact request.counted_nonneg keyId

theorem owed_trackKeyRequest (state : State) (keyId other : String) : (trackKeyRequest state keyId).owed other =
      if keyId = other then (state.owed other).track else state.owed other := by
  have running : (trackKeyRequest state keyId).running other = state.running other + if keyId = other then 1 else 0 := by
    simp [State.running, trackKeyRequest, Request.counted]
  rw [State.owed, running]
  split
  · rfl
  · simp [State.owed, State.writing, trackKeyRequest]

theorem owed_trackKeySettlement (state : State) (keyId other : String) (usage : Usage) :
    (trackKeySettlement state keyId usage).owed other =
      if keyId = other then (state.owed other).add usage else state.owed other := by
  have writing : ∀ part, (trackKeySettlement state keyId usage).writing other part =
      state.writing other part + if keyId = other then (part usage : ℤ) else 0 := by
    simp [State.writing, trackKeySettlement, Settlement.counted]
  rw [State.owed, writing, writing, writing]
  split
  · rfl
  · simp [State.owed, State.running, trackKeySettlement]

theorem owed_release {state : State} {number : ℕ} {request : Request} (found : state.requests[number]? = some request)
    (held : request.released = false) (other : String) : (release state number).owed other =
      if request.keyId = other then (state.owed other).release else state.owed other := by
  have running : (release state number).running other = state.running other - if request.keyId = other then 1 else 0 := by
    simp only [State.running, release, found, held, Bool.false_eq_true, if_false]
    rw [sum_set _ found]
    simp [Request.counted, held]
  rw [State.owed, running]
  have same : ∀ part, (release state number).writing other part = state.writing other part := by
    simp [State.writing, release, found, held]
  rw [same, same, same]
  split
  · rfl
  · rw [sub_zero]
    rfl

theorem owed_settled {state : State} {number : ℕ} {settlement : Settlement}
    (found : state.settlements[number]? = some settlement) (writes : settlement.written = false) (other : String) :
    (settled state number).owed other =
      if settlement.keyId = other then (state.owed other).subtract settlement.usage else state.owed other := by
  have writing : ∀ part, (settled state number).writing other part =
      state.writing other part - if settlement.keyId = other then (part settlement.usage : ℤ) else 0 := by
    intro part
    simp only [State.writing, settled, found, writes, Bool.false_eq_true, if_false]
    rw [sum_set _ found]
    simp [Settlement.counted, writes]
  rw [State.owed, writing, writing, writing]
  have same : (settled state number).running other = state.running other := by
    simp [State.running, settled, found, writes]
  rw [same]
  split
  · rfl
  · rw [sub_zero, sub_zero, sub_zero]
    rfl

/-- The entry of the key is exact, and an entry of zeros has its reason. -/
structure Exact (state : State) (keyId : String) : Prop where
  entry : pendingOf state.pendingByKey keyId = state.owed keyId
  zeros : state.pendingByKey keyId = some Pending.zero → state.WritesNothing keyId

theorem exact_start (keyId : String) : Exact start keyId :=
  ⟨rfl, fun present => by cases present⟩

section
variable {state : State} (before : ∀ keyId, Exact state keyId)

include before

theorem exact_trackKeyRequest (keyId other : String) : Exact (trackKeyRequest state keyId) other := by
  by_cases same : keyId = other
  · subst same
    have entry : pendingOf (trackKeyRequest state keyId).pendingByKey keyId = (state.owed keyId).track := by
      rw [trackKeyRequest, pendingOf_change, (before keyId).entry]
    refine ⟨by rw [entry, owed_trackKeyRequest, if_pos rfl], ?_⟩
    intro zero
    -- a running request is in the entry
    rw [pendingOf, zero, Option.getD_some] at entry
    have running := (owed_nonneg state keyId).inFlight
    have none_running := congrArg Pending.inFlight entry
    simp only [Pending.zero, Pending.track] at none_running
    omega
  · have entries : (trackKeyRequest state keyId).pendingByKey other = state.pendingByKey other :=
      change_other _ _ (Ne.symm same)
    refine ⟨?_, fun zero => (before other).zeros (entries ▸ zero)⟩
    rw [pendingOf, entries, owed_trackKeyRequest, if_neg same]
    exact (before other).entry

theorem exact_trackKeySettlement (keyId other : String)
    (usage : Usage) : Exact (trackKeySettlement state keyId usage) other := by
  by_cases same : keyId = other
  · subst same
    have entry : pendingOf (trackKeySettlement state keyId usage).pendingByKey keyId = (state.owed keyId).add usage := by
      rw [trackKeySettlement, pendingOf_change, (before keyId).entry]
    refine ⟨by rw [entry, owed_trackKeySettlement, if_pos rfl], ?_⟩
    intro zero
    rw [pendingOf, zero, Option.getD_some] at entry
    obtain ⟨_, cost, input, output⟩ := owed_nonneg state keyId
    simp only [Pending.zero, Pending.add, Pending.mk.injEq] at entry
    refine ⟨⟨keyId, usage, false⟩, List.mem_append_right _ (List.mem_singleton.mpr rfl), rfl, rfl, ?_⟩
    obtain ⟨inputTokens, outputTokens, costMicros⟩ := usage
    simp only [Usage.mk.injEq] at entry ⊢
    omega
  · have entries : (trackKeySettlement state keyId usage).pendingByKey other = state.pendingByKey other :=
      change_other _ _ (Ne.symm same)
    refine ⟨?_, ?_⟩
    · rw [pendingOf, entries, owed_trackKeySettlement, if_neg same]
      exact (before other).entry
    · intro zero
      obtain ⟨settlement, member, open_one⟩ := (before other).zeros (entries ▸ zero)
      exact ⟨settlement, List.mem_append_left _ member, open_one⟩

/-- What is written on one entry, which then goes where it is idle. -/
theorem exact_dropped {next : State} {keyId : String} {write : Pending → Pending}
    (entries : next.pendingByKey = dropIfIdle (change state.pendingByKey keyId write) keyId)
    (owed : ∀ other, next.owed other = if keyId = other then write (state.owed other) else state.owed other)
    (reasons : ∀ other, keyId ≠ other → state.WritesNothing other → next.WritesNothing other) (other : String) :
    Exact next other := by
  by_cases same : keyId = other
  · subst same
    have changed : pendingOf (change state.pendingByKey keyId write) keyId = next.owed keyId := by
      rw [pendingOf_change, (before keyId).entry, owed, if_pos rfl]
    refine ⟨?_, fun zero => absurd (entries ▸ zero) (dropIfIdle_not_zero _ _)⟩
    rw [entries, pendingOf_dropIfIdle (changed ▸ owed_nonneg _ _), changed]
  · have kept : next.pendingByKey other = state.pendingByKey other := by
      rw [entries, dropIfIdle_other _ (Ne.symm same), change_other _ _ (Ne.symm same)]
    refine ⟨?_, fun zero => reasons other same ((before other).zeros (kept ▸ zero))⟩
    rw [pendingOf, kept, owed, if_neg same]
    exact (before other).entry

theorem exact_release (number : ℕ) (other : String) : Exact (release state number) other := by
  cases found : state.requests[number]? with
  | none =>
    have unchanged : release state number = state := by simp [release, found]
    rw [unchanged]
    exact before other
  | some request =>
    cases held : request.released with
    | true =>
      have unchanged : release state number = state := by simp [release, found, held]
      rw [unchanged]
      exact before other
    | false =>
      apply exact_dropped before _ (owed_release found held)
      · simpa [State.WritesNothing, release, found, held] using reason
      · simp [release, found, held]

end

theorem mem_set_other {Item : Type} {items : List Item} {number : ℕ} {old item : Item} (new : Item)
    (found : items[number]? = some old) (member : item ∈ items) (distinct : item ≠ old) : item ∈ items.set number new := by
  obtain ⟨place, there⟩ := List.getElem?_of_mem member
  have apart : number ≠ place := by
    intro same
    rw [same, there, Option.some.injEq] at found
    exact distinct found
  exact List.mem_of_getElem? ((List.getElem?_set_ne apart).trans there)

theorem exact_settled {state : State} (before : ∀ keyId, Exact state keyId) (number : ℕ) (other : String) :
    Exact (settled state number) other := by
  cases found : state.settlements[number]? with
  | none =>
    have unchanged : settled state number = state := by simp [settled, found]
    rw [unchanged]
    exact before other
  | some settlement =>
    cases writes : settlement.written with
    | true =>
      have unchanged : settled state number = state := by simp [settled, found, writes]
      rw [unchanged]
      exact before other
    | false =>
      apply exact_dropped before _ (owed_settled found writes)
      · rintro other apart ⟨reason, member, its, open_one⟩
        have distinct : reason ≠ settlement := by
          rintro rfl
          exact apart its
        refine ⟨reason, ?_, its, open_one⟩
        simp only [settled, found, writes, Bool.false_eq_true, if_false]
        exact mem_set_other _ found member distinct
      · simp [settled, found, writes]

theorem exact_step {state : State} (before : ∀ keyId, Exact state keyId) (event : Event) (other : String) :
    Exact (step state event) other := by
  cases event with
  | request keyId => exact exact_trackKeyRequest before keyId other
  | release number => exact exact_release before number other
  | settlement keyId usage => exact exact_trackKeySettlement before keyId other usage
  | written number => exact exact_settled before number other
  | failed number => exact exact_settled before number other

theorem exact_run (events : List Event) (keyId : String) : Exact (run events) keyId := by
  rw [run]
  have begun : ∀ keyId, Exact start keyId := exact_start
  generalize start = state at begun
  induction events generalizing state with
  | nil => exact begun keyId
  | cons event rest ih => exact ih _ (exact_step begun event)

theorem checkLimits_passes (reserve : ℚ) (pending : Option Pending) (model : Option String) (nowIso : String)
    (limits : List Limit) : checkLimits reserve pending model nowIso limits = .ok () ↔
      ∀ limit ∈ limits, limit.applies model nowIso = true →
        limit.currentValue + pendingValue reserve limit pending < limit.maxValue := by
  induction limits with
  | nil => simp [checkLimits]
  | cons limit rest ih =>
    rw [checkLimits]
    split
    · next full =>
      simp only [Bool.and_eq_true, decide_eq_true_eq] at full
      simp only [reduceCtorEq, false_iff]
      intro below
      have under := below limit List.mem_cons_self full.1
      exact absurd full.2 (not_le.mpr under)
    · next open_one =>
      simp only [Bool.and_eq_true, decide_eq_true_eq, not_and, not_le] at open_one
      rw [ih]
      simp only [List.forall_mem_cons]
      exact ⟨fun below => ⟨open_one, below⟩, fun below => below.2⟩

theorem pendingValue_getD (reserve : ℚ) (limit : Limit) (pending : Option Pending) :
    pendingValue reserve limit pending = pendingValue reserve limit (some (pending.getD Pending.zero)) := by
  cases pending with
  | some pending => rfl
  | none =>
    cases filter : limit.modelFilter with
    | some _ => simp only [pendingValue, filter]
    | none => cases kind : limit.limitType <;> simp [pendingValue, filter, kind, Pending.zero]

theorem checkKeyLimits_passes (reserve : ℚ) {state : State} {key : Key} (exact : Exact state key.id)
    (model : Option String) (nowIso : String) :
    checkKeyLimits reserve state.pendingByKey (some key) model nowIso = .ok () ↔
      ∀ limit ∈ key.limits, limit.applies model nowIso = true →
        limit.currentValue + pendingValue reserve limit (some (state.owed key.id)) < limit.maxValue := by
  rw [checkKeyLimits, checkLimits_passes, ← exact.entry]
  simp only [pendingValue_getD reserve _ (state.pendingByKey key.id), pendingOf]

end SpaceApp.Gateway.Policy
