import Mathlib.Data.Set.Card
import SpaceApp.Gateway.Accounts.Pool

/-! Requests in flight per account: what `markSelected` and the close listener it attaches
count (`accounts/account-pool.ts`), against the responses that are really open.
-/

set_option autoImplicit false

namespace SpaceApp.Gateway.Accounts

/-- The id of a stored account. It is never empty, so the source's `if (previous)` asks
whether there is one. -/
structure AccountId where
  text : String
  nonempty : text ≠ ""
  deriving DecidableEq

variable {Response : Type} [DecidableEq Response]

structure InFlight (Response : Type) where
  runtime : Runtime := Runtime.fresh
  activeByAccount : AccountId → Option Nat := fun _ => none
  activeResponses : Response → Option AccountId := fun _ => none
  /-- Close listeners waiting on each response. -/
  listeners : Response → Nat := fun _ => 0

namespace InFlight

def release (pool : InFlight Response) (accountId : AccountId) : InFlight Response :=
  let count := (pool.activeByAccount accountId).getD 1 - 1
  { pool with
    activeByAccount := Function.update pool.activeByAccount accountId (if 0 < count then some count else none) }

def enter (pool : InFlight Response) (accountId : AccountId) (response : Response) : InFlight Response :=
  { pool with
    activeResponses := Function.update pool.activeResponses response (some accountId)
    activeByAccount := Function.update pool.activeByAccount accountId
      (some ((pool.activeByAccount accountId).getD 0 + 1)) }

def listen (pool : InFlight Response) (response : Response) : InFlight Response :=
  { pool with listeners := Function.update pool.listeners response (pool.listeners response + 1) }

@[grind] def markSelected (pool : InFlight Response) (accountId : AccountId) (response : Option Response) (now : ℚ) :
    InFlight Response :=
  let selected := { pool with runtime := Accounts.markSelected pool.runtime accountId.text now }
  match response with
  | none => selected
  | some response =>
      match pool.activeResponses response with
      | some previous =>
          if previous = accountId then selected
          else (selected.release previous).enter accountId response
      | none => (selected.listen response).enter accountId response

def onClose (response : Response) (pool : InFlight Response) : InFlight Response :=
  let released := match pool.activeResponses response with
    | some current => pool.release current
    | none => pool
  { released with activeResponses := Function.update released.activeResponses response none }

/-- The response closes: every listener waiting on it is called once and is gone. -/
def close (pool : InFlight Response) (response : Response) : InFlight Response :=
  (onClose response)^[pool.listeners response]
    { pool with listeners := Function.update pool.listeners response 0 }

end InFlight

inductive SelectionEvent (Response : Type) where
  | markSelected (accountId : AccountId) (response : Option Response) (now : ℚ)
  | close (response : Response)
  deriving DecidableEq

@[grind] def InFlight.step (pool : InFlight Response) : SelectionEvent Response → InFlight Response
  | .markSelected accountId response now => pool.markSelected accountId response now
  | .close response => pool.close response

def InFlight.run (events : List (SelectionEvent Response)) : InFlight Response :=
  events.foldl InFlight.step {}

@[grind] def selection (response : Response) : SelectionEvent Response → Option AccountId
  | .markSelected accountId (some other) _ => if other = response then some accountId else none
  | _ => none

def lastSelected (response : Response) (events : List (SelectionEvent Response)) : Option AccountId :=
  events.reverse.findSome? (selection response)

/-- The responses that are not closed and whose last selection named the account. -/
def openOn (events : List (SelectionEvent Response)) (accountId : AccountId) : Set Response :=
  { response | .close response ∉ events ∧ lastSelected response events = some accountId }

/-- Accounts without a request have no entry. -/
def entry (count : Nat) : Option Nat := if count = 0 then none else some count

def CountsExactly (events : List (SelectionEvent Response)) : Prop :=
  ∀ accountId, (InFlight.run events).activeByAccount accountId = entry (openOn events accountId).ncard

/-- The response was selected after it had closed, and has not closed again since. -/
def LateSelection (events : List (SelectionEvent Response)) (response : Response) : Prop :=
  ∃ before accountId now after, events = before ++ .markSelected accountId (some response) now :: after ∧
    .close response ∈ before ∧ .close response ∉ after

structure Counted (pool : InFlight Response) : Prop where
  finite : ∀ accountId, { response | pool.activeResponses response = some accountId }.Finite
  counted : ∀ accountId,
    pool.activeByAccount accountId = entry { response | pool.activeResponses response = some accountId }.ncard

/-- A response waits for one close while it is on an account. -/
def Listening (pool : InFlight Response) : Prop :=
  ∀ response, pool.listeners response = if (pool.activeResponses response).isSome then 1 else 0

theorem entry_getD (count : Nat) : (entry count).getD 0 = count := by
  unfold entry
  split <;> simp_all

theorem entry_pred (count : Nat) : (if 0 < (entry (count + 1)).getD 1 - 1 then
    some ((entry (count + 1)).getD 1 - 1) else none) = entry count := by
  cases count with
  | zero => rfl
  | succ count => simp [entry]

section

variable {pool : InFlight Response}

theorem Counted.onClose (counted : Counted pool) (response : Response) : Counted (InFlight.onClose response pool) := by
  unfold InFlight.onClose
  cases active : pool.activeResponses response with
  | none =>
    have same : Function.update pool.activeResponses response none = pool.activeResponses := by
      rw [← active, Function.update_eq_self]
    simp only [same]
    exact counted
  | some accountId =>
    have finite : ∀ other,
        { left | Function.update pool.activeResponses response none left = some other }.Finite := by
      intro other
      refine (counted.finite other).subset ?_
      intro left member
      by_cases here : left = response
      · subst here
        simp at member
      · simpa [here] using member
    refine ⟨finite, ?_⟩
    intro other
    simp only [InFlight.release]
    by_cases same : other = accountId
    · subst same
      have left : { left | Function.update pool.activeResponses response none left = some other } =
          { left | pool.activeResponses left = some other } \ {response} := by
        ext left
        by_cases here : left = response <;> simp [here, Function.update_apply]
      have member : response ∈ { left | pool.activeResponses left = some other } := active
      have count := counted.counted other
      rw [← Set.ncard_sdiff_singleton_add_one member (counted.finite other)] at count
      simp only [Function.update_self, count, entry_pred, left]
    · have kept : { left | Function.update pool.activeResponses response none left = some other } =
          { left | pool.activeResponses left = some other } := by
        ext left
        by_cases here : left = response
        · subst here
          simp [active, Ne.symm same]
        · simp [here]
      simp only [Function.update_of_ne same, kept, counted.counted]

theorem Counted.enter (counted : Counted pool) {response : Response} (nowhere : pool.activeResponses response = none)
    (accountId : AccountId) : Counted (pool.enter accountId response) := by
  have finite : ∀ other,
      { entered | (pool.enter accountId response).activeResponses entered = some other }.Finite := by
    intro other
    refine ((counted.finite other).insert response).subset ?_
    intro entered member
    by_cases here : entered = response
    · exact .inl here
    · exact .inr (by simpa [InFlight.enter, here] using member)
  refine ⟨finite, ?_⟩
  intro other
  by_cases same : other = accountId
  · subst same
    have entered : { entered | (pool.enter other response).activeResponses entered = some other } =
        insert response { entered | pool.activeResponses entered = some other } := by
      ext entered
      by_cases here : entered = response <;> simp [InFlight.enter, here]
    have fresh : response ∉ { entered | pool.activeResponses entered = some other } := by simp [nowhere]
    rw [entered, Set.ncard_insert_of_notMem fresh (counted.finite other)]
    simp only [InFlight.enter, Function.update_self, counted.counted, entry_getD]
    rfl
  · have kept : { entered | (pool.enter accountId response).activeResponses entered = some other } =
        { entered | pool.activeResponses entered = some other } := by
      ext entered
      by_cases here : entered = response
      · subst here
        simp [InFlight.enter, nowhere, Ne.symm same]
      · simp [InFlight.enter, here]
    rw [kept]
    simp only [InFlight.enter, Function.update_of_ne same, counted.counted]

theorem onClose_active (response : Response) :
    (InFlight.onClose response pool).activeResponses = Function.update pool.activeResponses response none := by
  unfold InFlight.onClose
  cases pool.activeResponses response <;> rfl

theorem onClose_listeners (response : Response) : (InFlight.onClose response pool).listeners = pool.listeners := by
  unfold InFlight.onClose
  cases pool.activeResponses response <;> rfl

theorem release_enter {response : Response} {previous : AccountId}
    (active : pool.activeResponses response = some previous) (accountId : AccountId) :
    (pool.release previous).enter accountId response =
      (InFlight.onClose response pool).enter accountId response := by
  simp [InFlight.onClose, active, InFlight.enter, InFlight.release, Function.update_idem]

end

@[grind] def onAccount (response : Response) (current : Option AccountId) : SelectionEvent Response → Option AccountId
  | .markSelected accountId (some other) _ => if other = response then some accountId else current
  | .markSelected _ none _ => current
  | .close other => if other = response then none else current

structure InStep (pool : InFlight Response) : Prop where
  counted : Counted pool
  listening : Listening pool

omit [DecidableEq Response] in
theorem start_inStep : InStep ({} : InFlight Response) where
  counted := { finite := fun accountId => by simp, counted := fun accountId => by simp [entry] }
  listening response := by simp

section

variable {pool : InFlight Response}

theorem InStep.close (inStep : InStep pool) (response : Response) : InStep (pool.close response) ∧
    (pool.close response).activeResponses = Function.update pool.activeResponses response none := by
  unfold InFlight.close
  cases active : pool.activeResponses response with
  | none =>
    have nowhere : Function.update pool.activeResponses response none = pool.activeResponses := by
      rw [← active, Function.update_eq_self]
    have quiet : pool.listeners response = 0 := by simp [inStep.listening response, active]
    have silent : Function.update pool.listeners response 0 = pool.listeners := by
      rw [← quiet, Function.update_eq_self]
    rw [quiet, silent, Function.iterate_zero, id, nowhere]
    exact ⟨inStep, rfl⟩
  | some accountId =>
    have waiting : pool.listeners response = 1 := by simp [inStep.listening response, active]
    rw [waiting, Function.iterate_one]
    have counted : Counted { pool with listeners := Function.update pool.listeners response 0 } :=
      ⟨inStep.counted.finite, inStep.counted.counted⟩
    refine ⟨⟨counted.onClose response, ?_⟩, onClose_active response⟩
    intro other
    rw [onClose_active, onClose_listeners]
    by_cases here : other = response
    · subst here
      simp
    · simp [here, inStep.listening other]

theorem InStep.markSelected (inStep : InStep pool) (accountId : AccountId) (response : Response) (now : ℚ) :
    InStep (pool.markSelected accountId (some response) now) ∧
      (pool.markSelected accountId (some response) now).activeResponses =
        Function.update pool.activeResponses response (some accountId) := by
  unfold InFlight.markSelected
  have counted : Counted { pool with runtime := Accounts.markSelected pool.runtime accountId.text now } :=
    ⟨inStep.counted.finite, inStep.counted.counted⟩
  cases active : pool.activeResponses response with
  | none =>
    dsimp only
    rw [active]
    refine ⟨⟨?_, ?_⟩, rfl⟩
    · have listening : Counted (InFlight.listen
          { pool with runtime := Accounts.markSelected pool.runtime accountId.text now } response) :=
        ⟨counted.finite, counted.counted⟩
      exact listening.enter active accountId
    · intro other
      by_cases here : other = response
      · subst here
        simp [InFlight.listen, InFlight.enter, inStep.listening other, active]
      · simp [InFlight.listen, InFlight.enter, here, inStep.listening other]
  | some previous =>
    dsimp only
    rw [active]
    dsimp only
    split
    · next same =>
      subst same
      refine ⟨⟨counted, inStep.listening⟩, ?_⟩
      rw [← active, Function.update_eq_self]
    · rw [release_enter (by exact active)]
      refine ⟨⟨Counted.enter (counted.onClose response) ?_ accountId, ?_⟩, ?_⟩
      · simp [onClose_active]
      · intro other
        by_cases here : other = response
        · subst here
          simp [InFlight.enter, onClose_listeners, inStep.listening other, active]
        · simp [InFlight.enter, onClose_listeners, onClose_active, here, inStep.listening other]
      · simp [InFlight.enter, onClose_active, Function.update_idem]

theorem InStep.step (inStep : InStep pool) (event : SelectionEvent Response) : InStep (pool.step event) ∧ ∀ response,
      (pool.step event).activeResponses response = onAccount response (pool.activeResponses response) event := by
  cases event with
  | markSelected accountId named now =>
    cases named with
    | none => exact ⟨⟨⟨inStep.counted.finite, inStep.counted.counted⟩, inStep.listening⟩, fun _ => rfl⟩
    | some named =>
      obtain ⟨after, active⟩ := inStep.markSelected accountId named now
      refine ⟨after, ?_⟩
      intro response
      simp only [InFlight.step, active, onAccount]
      by_cases here : named = response
      · subst here
        simp
      · simp [here, Ne.symm here]
  | close closed =>
    obtain ⟨after, active⟩ := inStep.close closed
    refine ⟨after, ?_⟩
    intro response
    simp only [InFlight.step, active, onAccount]
    by_cases here : closed = response
    · subst here
      simp
    · simp [here, Ne.symm here]

end

section
variable (events : List (SelectionEvent Response))

theorem run_snoc (event : SelectionEvent Response) :
    InFlight.run (events ++ [event]) = (InFlight.run events).step event := by
  simp [InFlight.run]

theorem run_inStep : InStep (InFlight.run events) := by
  induction events using List.reverseRecOn with
  | nil => exact start_inStep
  | append_singleton events event ih =>
    rw [run_snoc]
    exact (ih.step event).1

theorem active_snoc (event : SelectionEvent Response)
    (response : Response) : (InFlight.run (events ++ [event])).activeResponses response =
      onAccount response ((InFlight.run events).activeResponses response) event := by
  rw [run_snoc]
  exact ((run_inStep events).step event).2 response

theorem lastSelected_snoc (event : SelectionEvent Response)
    (response : Response) : lastSelected response (events ++ [event]) =
      (selection response event <|> lastSelected response events) := by
  simp only [lastSelected, List.reverse_append, List.reverse_cons, List.reverse_nil, List.nil_append,
    List.singleton_append, List.findSome?_cons]
  cases selection response event <;> rfl

end

theorem active_open {events : List (SelectionEvent Response)} {response : Response} (open_ : .close response ∉ events) :
    (InFlight.run events).activeResponses response = lastSelected response events := by
  induction events using List.reverseRecOn with
  | nil => rfl
  | append_singleton events event ih =>
    simp only [List.mem_append, List.mem_singleton, not_or] at open_
    rw [active_snoc, lastSelected_snoc, ih open_.1]
    cases event with
    | markSelected accountId named now =>
      cases named with
      | none => rfl
      | some named =>
        simp only [onAccount, selection]
        split <;> rfl
    | close closed =>
      have apart : closed ≠ response := fun same => open_.2 (by rw [same])
      simp [onAccount, selection, apart]

theorem lateSelection_snoc (events : List (SelectionEvent Response)) (event : SelectionEvent Response)
    (response : Response) : LateSelection (events ++ [event]) response ↔
      ((selection response event).isSome ∧ .close response ∈ events) ∨
        (event ≠ .close response ∧ LateSelection events response) := by
  constructor
  · intro ⟨before, accountId, now, after, split, closed, quiet⟩
    -- the late selection is the last event, or one before it
    rcases List.eq_nil_or_concat after with rfl | ⟨rest, last, rfl⟩
    · obtain ⟨rfl, same⟩ := List.append_inj' split rfl
      obtain rfl := List.cons.inj same |>.1
      exact .inl ⟨by simp [selection], closed⟩
    · rw [List.concat_eq_append, ← List.cons_append, ← List.append_assoc] at split
      obtain ⟨rfl, same⟩ := List.append_inj' split rfl
      obtain rfl := List.cons.inj same |>.1
      simp only [List.concat_eq_append, List.mem_append, List.mem_singleton, not_or] at quiet
      exact .inr ⟨Ne.symm quiet.2, before, accountId, now, rest, rfl, closed, quiet.1⟩
  · intro late
    rcases late with ⟨selected, closed⟩ | ⟨other, before, accountId, now, after, rfl, closed, quiet⟩
    · cases event with
      | close response => cases selected
      | markSelected accountId named now =>
        cases named with
        | none => cases selected
        | some named =>
          simp only [selection] at selected
          split at selected
          · next same => exact ⟨events, accountId, now, [], by rw [same], closed, List.not_mem_nil⟩
          · cases selected
    · refine ⟨before, accountId, now, after ++ [event], by simp, closed, ?_⟩
      simp only [List.mem_append, List.mem_singleton, not_or]
      exact ⟨quiet, Ne.symm other⟩

/-- A closed response is on an account exactly when it was selected since. -/
theorem active_closed {events : List (SelectionEvent Response)} {response : Response}
    (closed : .close response ∈ events) :
    ((InFlight.run events).activeResponses response).isSome ↔ LateSelection events response := by
  induction events using List.reverseRecOn with
  | nil => cases closed
  | append_singleton events event ih =>
    rw [active_snoc, lateSelection_snoc]
    by_cases earlier : .close response ∈ events
    · have before := ih earlier
      cases event with
      | markSelected accountId named now =>
        cases named with
        | none => simp [onAccount, selection, before]
        | some named =>
          by_cases same : named = response
          · simp [onAccount, selection, same, earlier]
          · simp [onAccount, selection, same, before]
      | close other =>
        by_cases same : other = response
        · simp [onAccount, selection, same]
        · simp [onAccount, selection, same, before]
    · have last : event = .close response := by simpa [earlier, eq_comm] using closed
      simp [last, onAccount, selection]

theorem openOn_subset (events : List (SelectionEvent Response)) (accountId : AccountId) :
    openOn events accountId ⊆ { response | (InFlight.run events).activeResponses response = some accountId } := by
  intro response member
  rw [Set.mem_ofPred_eq, active_open member.1]
  exact member.2

theorem entry_injective : Function.Injective entry := by
  intro first second same
  have counts := congrArg (fun count : Option Nat => count.getD 0) same
  simpa only [entry_getD] using counts

/-- A late selection is counted, though its response is closed. -/
theorem late_not_exact {events : List (SelectionEvent Response)} {response : Response}
    (late : LateSelection events response) : ¬ CountsExactly events := by
  intro exact_
  have inStep := run_inStep events
  have closed : .close response ∈ events := by
    obtain ⟨before, _, _, _, rfl, closed, _⟩ := late
    exact List.mem_append_left _ closed
  obtain ⟨accountId, active⟩ := Option.isSome_iff_exists.mp ((active_closed closed).mpr late)
  have counts := exact_ accountId
  rw [inStep.counted.counted accountId] at counts
  have same := Set.eq_of_subset_of_ncard_le (openOn_subset events accountId) (entry_injective counts).le
    (inStep.counted.finite accountId)
  have member : response ∈ openOn events accountId := by
    rw [same]
    exact active
  exact member.1 closed

theorem exact_of_punctual {events : List (SelectionEvent Response)}
    (punctual : ∀ response, ¬ LateSelection events response) : CountsExactly events := by
  intro accountId
  rw [(run_inStep events).counted.counted accountId]
  congr 2
  refine Set.Subset.antisymm ?_ (openOn_subset events accountId)
  intro response active
  have open_ : .close response ∉ events := by
    intro closed
    exact punctual response ((active_closed closed).mp (Option.isSome_iff_exists.mpr ⟨accountId, active⟩))
  exact ⟨open_, (active_open open_).symm.trans active⟩

/-- The counts are those of the open responses exactly when no response was selected after it
had closed. -/
theorem inFlight_exact_iff (events : List (SelectionEvent Response)) :
    CountsExactly events ↔ ∀ response, ¬ LateSelection events response := by
  constructor
  · intro exact_ response late
    exact late_not_exact late exact_
  · exact exact_of_punctual

def sampleId : AccountId := ⟨"a", by decide⟩

/-- The client went away before the account was chosen: the request is counted for ever. -/
theorem late_selection_counted : ¬ ∀ events : List (SelectionEvent Nat), CountsExactly events := by
  intro always
  have late : LateSelection [.close 0, .markSelected sampleId (some 0) 0] 0 :=
    ⟨[.close 0], sampleId, 0, [], rfl, List.mem_singleton_self _, List.not_mem_nil⟩
  exact late_not_exact late (always _)

end SpaceApp.Gateway.Accounts
