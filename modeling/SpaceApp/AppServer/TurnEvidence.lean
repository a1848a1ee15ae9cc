import SpaceApp.AppServer.TurnConduct
import SpaceApp.Foundation.Reach

/-! The evidence of an observed turn: what was sent and seen where it reads verified. -/

set_option autoImplicit false

namespace SpaceApp.AppServer

open SpaceApp.Foundation

/-- What is seen between the send and the end of the turn with this id says nothing against it. -/
def Mark.clean (input : StartTurnInput) (id : TurnId) : Mark → Bool
  | .sent => true
  | .accepted other => other = id
  | .started other => other = id
  | .completed other => other = id
  | .settings model effort => model = input.model && effort = input.reasoningEffort
  | .rerouted _ => false
  | .closure => false

def StartTurnInput.turnStart (input : StartTurnInput) : Sending :=
  .turnStart input.threadId (trimText input.prompt) input.clientUserMessageId input.model input.reasoningEffort

/-- The turn was started here, its response accepted it, it started and then completed, and nothing between says otherwise. -/
structure Proves (input : StartTurnInput) (turn : ManagedTurn) (id : TurnId) : Prop where
  wrote : input.turnStart ∈ turn.written
  window : ∃ early middle late, turn.seen = early ++ .sent :: middle ++ late ∧ .accepted id ∈ middle ∧
    [.started id, .completed id].Sublist middle ∧ ∀ mark ∈ middle, mark.clean input id = true

def Evidence (input : StartTurnInput) (turn : ManagedTurn) : Prop :=
  ∀ selection, turn.read = (.verified, some selection) →
    Proves input turn selection.turnId ∧ selection.threadId = input.threadId ∧ selection.modelId = input.model ∧
      selection.reasoningEffort = input.reasoningEffort ∧ selection.commandId = input.clientUserMessageId

/-- What was seen since the send, while nothing contradicts the turn. -/
structure Window (input : StartTurnInput) (started accepted completed : TurnId) (middle : List Mark) : Prop where
  startedOnly : ∀ id, .started id ∈ middle → id = started ∧ started.truthy = true
  acceptedOnly : ∀ id, .accepted id ∈ middle → id = accepted ∧ accepted ≠ .missing
  completedOnly : ∀ id, .completed id ∈ middle → id = completed ∧ completed.truthy = true
  settings : ∀ model effort, .settings model effort ∈ middle → model = input.model ∧ effort = input.reasoningEffort
  steady : ∀ turnId, .rerouted turnId ∉ middle
  alive : .closure ∉ middle
  starts : started.truthy = true → .started started ∈ middle
  accepts : accepted.truthy = true → .accepted accepted ∈ middle
  completes : completed.truthy = true → completed = started ∧ [.started completed, .completed completed].Sublist middle

structure Tracked (input : StartTurnInput) (turn : ManagedTurn) : Prop where
  unsent : turn.sent = false → turn.startedId = .missing ∧ turn.acceptedId = .missing ∧ turn.completedId = .missing ∧
    turn.selection = none
  wrote : turn.sent = true → input.turnStart ∈ turn.written
  window : turn.sent = true → turn.selection = none → ∃ early middle, turn.seen = early ++ .sent :: middle ∧
    Window input turn.startedId turn.acceptedId turn.completedId middle
  unsettled : turn.settled = false → turn.acceptedId = .missing ∧ turn.selection = none
  proves : ∀ selection, turn.selection = some selection → selection.turnId = turn.acceptedId ∧
    Proves input turn selection.turnId ∧ selection.threadId = input.threadId ∧ selection.modelId = input.model ∧
      selection.reasoningEffort = input.reasoningEffort ∧ selection.commandId = input.clientUserMessageId

/-- Until it is invalid a turn is tracked, and once its response and its completion are there it is decided. -/
def Sound (input : StartTurnInput) (turn : ManagedTurn) : Prop :=
  turn.invalid = false → Tracked input turn ∧
    (turn.selection = none → turn.acceptedId.truthy = true → turn.completedId.truthy = false)

/-- A completion comes after the response, or names the turn that started; a response to `turn/start` comes after it was sent;
a reroute is of the accepted turn; and no id is empty. -/
def NotedFairly (turn : ManagedTurn) (method : String) (params : NotificationParams) : Bool :=
  if method = "turn/started" then params.turn ≠ .text ""
  else if method = "turn/completed" then
    params.turn ≠ .text "" && (turn.acceptedId.truthy || !turn.sent || params.turn = turn.startedId)
  else if method = "model/rerouted" then
    !turn.acceptedId.truthy || params.turnId.elim false fun turnId => TurnId.text turnId = turn.acceptedId
  else true

def Allowed (input : StartTurnInput) (turn : ManagedTurn) : TurnEvent → Bool
  | .frame (.message message) _ =>
    turn.invalid || turn.selection.isSome ||
      match message.method with
      | some method =>
        match message.id, message.params with
        | .absent, some params => if params.threadId = some input.threadId then NotedFairly turn method params else true
        | _, _ => true
      | none => message.error.isSome || message.id ≠ .number 1 || turn.settled || turn.sent
  | _ => true

section

variable {input : StartTurnInput} {turn after : ManagedTurn} {started accepted completed id : TurnId} {middle : List Mark}

theorem Proves.grow (proves : Proves input turn id) (written : turn.written ⊆ after.written)
    (seen : ∃ more, after.seen = turn.seen ++ more) : Proves input after id := by
  obtain ⟨early, middle, late, whole, accepted, order, clean⟩ := proves.window
  obtain ⟨more, grown⟩ := seen
  exact ⟨written proves.wrote, early, middle, late ++ more, by rw [grown, whole, List.append_assoc], accepted, order, clean⟩

/-- What a window holds, mark by mark. -/
def Mark.Fits (input : StartTurnInput) (started accepted completed : TurnId) : Mark → Prop
  | .sent => True
  | .started id => id = started ∧ started.truthy = true
  | .accepted id => id = accepted ∧ accepted ≠ .missing
  | .completed id => id = completed ∧ completed.truthy = true
  | .settings model effort => model = input.model ∧ effort = input.reasoningEffort
  | .rerouted _ | .closure => False

section
variable (window : Window input started accepted completed middle)

include window

theorem Window.fits : ∀ mark ∈ middle, mark.Fits input started accepted completed := by
  intro mark among
  cases mark with
  | sent => trivial
  | started other => exact window.startedOnly other among
  | accepted other => exact window.acceptedOnly other among
  | completed other => exact window.completedOnly other among
  | settings model effort => exact window.settings model effort among
  | rerouted turnId => exact window.steady turnId among
  | closure => exact window.alive among

theorem Window.append {last : Mark} {startedNow acceptedNow completedNow : TurnId}
    (before : ∀ mark : Mark, mark.Fits input started accepted completed → mark.Fits input startedNow acceptedNow completedNow)
    (fits : last.Fits input startedNow acceptedNow completedNow)
    (starts : startedNow.truthy = true → .started startedNow ∈ middle ++ [last])
    (accepts : acceptedNow.truthy = true → .accepted acceptedNow ∈ middle ++ [last])
    (completes : completedNow.truthy = true → completedNow = startedNow ∧
      [.started completedNow, .completed completedNow].Sublist (middle ++ [last])) :
    Window input startedNow acceptedNow completedNow (middle ++ [last]) := by
  have each : ∀ mark ∈ middle ++ [last], mark.Fits input startedNow acceptedNow completedNow := by
    intro mark among
    rcases List.mem_append.mp among with earlier | now
    · exact before mark (window.fits mark earlier)
    · rwa [List.mem_singleton.mp now]
  exact ⟨fun _ => each _, fun _ => each _, fun _ => each _, fun _ _ => each _, fun _ => each _, each _, starts, accepts, completes⟩

theorem Window.settings_append :
    Window input started accepted completed (middle ++ [.settings input.model input.reasoningEffort]) := by
  refine window.append (fun _ fits => fits) ⟨rfl, rfl⟩ ?_ ?_ ?_
  · exact fun truthy => List.mem_append_left _ (window.starts truthy)
  · exact fun truthy => List.mem_append_left _ (window.accepts truthy)
  · exact fun truthy => (window.completes truthy).imp_right fun order => order.trans (List.sublist_append_left _ _)

theorem Window.started_append (truthy : id.truthy = true) (same : started.truthy = true → started = id) :
    Window input id accepted completed (middle ++ [.started id]) := by
  refine window.append ?_ ⟨rfl, truthy⟩ ?_ ?_ ?_
  · intro mark fits
    cases mark with
    | started other =>
      obtain ⟨rfl, truthy_⟩ := fits
      exact ⟨same truthy_, truthy⟩
    | _ => exact fits
  · exact fun _ => List.mem_append_right _ List.mem_cons_self
  · exact fun truthy_ => List.mem_append_left _ (window.accepts truthy_)
  · intro truthy_
    obtain ⟨rfl, order⟩ := window.completes truthy_
    exact ⟨same truthy_, order.trans (List.sublist_append_left _ _)⟩

theorem Window.completed_append (truthy : started.truthy = true) :
    Window input started accepted started (middle ++ [.completed started]) := by
  refine window.append ?_ ⟨rfl, truthy⟩ ?_ ?_ ?_
  · intro mark fits
    cases mark with
    | completed other =>
      obtain ⟨rfl, truthy_⟩ := fits
      exact ⟨(window.completes truthy_).1, truthy⟩
    | _ => exact fits
  · exact fun truthy_ => List.mem_append_left _ (window.starts truthy_)
  · exact fun truthy_ => List.mem_append_left _ (window.accepts truthy_)
  · exact fun _ => ⟨rfl, (List.singleton_sublist.mpr (window.starts truthy)).append (List.Sublist.refl _)⟩

end

theorem Window.accepted_append (id : TurnId) (window : Window input started .missing completed middle) (present : id ≠ .missing) :
    Window input started id completed (middle ++ [.accepted id]) := by
  refine window.append ?_ ⟨rfl, present⟩ ?_ ?_ ?_
  · intro mark fits
    cases mark with
    | accepted other => exact absurd rfl fits.2
    | _ => exact fits
  · exact fun truthy => List.mem_append_left _ (window.starts truthy)
  · exact fun _ => List.mem_append_right _ List.mem_cons_self
  · exact fun truthy => (window.completes truthy).imp_right fun order => order.trans (List.sublist_append_left _ _)

/-- All that was seen is of the one turn. -/
theorem Window.clean (window : Window input id id id middle) : ∀ mark ∈ middle, mark.clean input id = true := by
  intro mark among
  cases mark with
  | sent => rfl
  | accepted other => exact decide_eq_true (window.acceptedOnly other among).1
  | started other => exact decide_eq_true (window.startedOnly other among).1
  | completed other => exact decide_eq_true (window.completedOnly other among).1
  | settings model effort =>
    obtain ⟨sameModel, sameEffort⟩ := window.settings model effort among
    simp only [Mark.clean, sameModel, sameEffort, decide_true, Bool.and_self]
  | rerouted turnId => exact (window.steady turnId among).elim
  | closure => exact (window.alive among).elim

theorem Window.proves (window : Window input id id id middle) (truthy : id.truthy = true) (wrote : input.turnStart ∈ turn.written)
    {early : List Mark} (seen : turn.seen = early ++ .sent :: middle) : Proves input turn id :=
  ⟨wrote, early, middle, [], by rw [seen, List.append_nil], window.accepts truthy, (window.completes truthy).2, window.clean⟩

theorem Sound.fails (rejection : Option Delivery) : Sound input (turn.fail rejection) := by
  intro valid
  rw [fail_invalid] at valid
  cases valid

theorem finalize_sound (tracked : turn.invalid = false → Tracked input turn) : Sound input (turn.finalize input) := by
  intro valid
  unfold ManagedTurn.finalize at valid ⊢
  split at valid
  · next apart =>
    rw [if_pos apart]
    refine ⟨tracked valid, fun _ accepted => ?_⟩
    simpa [accepted] using apart
  · next both =>
    rw [if_neg both]
    simp only [Bool.or_eq_true, Bool.not_eq_true', not_or, Bool.not_eq_false] at both
    obtain ⟨accepted, completed⟩ := both
    simp only [ManagedTurn.close, Bool.or_eq_false_iff, decide_eq_false_iff_not, ne_eq, not_not] at valid
    obtain ⟨⟨⟨valid_, starts⟩, completes⟩, -⟩ := valid
    have known := tracked valid_
    have sent : turn.sent = true := by
      cases unsent : turn.sent with
      | true => rfl
      | false =>
        rw [(known.unsent unsent).2.1] at accepted
        cases accepted
    have proves : Proves input turn turn.acceptedId := by
      cases selected : turn.selection with
      | some selection =>
        obtain ⟨same, proves, -⟩ := known.proves selection selected
        exact same ▸ proves
      | none =>
        obtain ⟨early, middle, seen, window⟩ := known.window sent selected
        rw [starts, completes] at window
        exact window.proves accepted (known.wrote sent) seen
    simp only [valid_, starts, completes, ne_eq, not_true, decide_false, Bool.or_self, Bool.false_eq_true, if_false]
    refine ⟨{
      unsent := fun unsent => ?_
      wrote := known.wrote
      window := fun _ none_ => ?_
      unsettled := fun unsettled => ?_
      proves := fun selection at_ => ?_ }, fun none_ => ?_⟩
    · rw [show turn.sent = false from unsent] at sent
      cases sent
    · cases none_
    · rw [(known.unsettled unsettled).1] at accepted
      cases accepted
    · cases at_
      exact ⟨rfl, proves.grow (fun _ among => among) ⟨[], (List.append_nil _).symm⟩, rfl, rfl, rfl, rfl⟩
    · cases none_

theorem text_truthy (isText : id.isText = true) (filled : id ≠ .text "") : id.truthy = true := by
  cases id with
  | text id => simpa [TurnId.truthy] using filled
  | missing => cases isText
  | other truthy => cases isText

/-- The response names one turn: one that started and one that completed cannot differ. -/
theorem finalize_differs (accepted : turn.acceptedId.truthy = true) (completed : turn.completedId.truthy = true)
    (differ : turn.startedId ≠ turn.completedId) : (turn.finalize input).invalid = true := by
  have either : turn.startedId ≠ turn.acceptedId ∨ turn.completedId ≠ turn.acceptedId := by
    by_contra both
    simp only [not_or, not_not] at both
    exact differ (both.1.trans both.2.symm)
  unfold ManagedTurn.finalize ManagedTurn.close
  rcases either with started | completed_ <;> simp [*]

theorem Sound.quiet (sound : Sound input turn) (valid : after.invalid = false → turn.invalid = false)
    (sent : after.sent = turn.sent) (settled : after.settled = turn.settled) (selection : after.selection = turn.selection)
    (ids : after.startedId = turn.startedId ∧ after.acceptedId = turn.acceptedId ∧ after.completedId = turn.completedId)
    (written : turn.written ⊆ after.written) (seen : turn.sent = true → after.seen = turn.seen) : Sound input after := by
  intro valid_
  obtain ⟨tracked, undecided⟩ := sound (valid valid_)
  have started (selected : AcceptedTurnSelection) (at_ : turn.selection = some selected) : turn.sent = true := by
    cases unsent : turn.sent with
    | true => rfl
    | false =>
      rw [(tracked.unsent unsent).2.2.2] at at_
      cases at_
  obtain ⟨startedId, acceptedId, completedId⟩ := ids
  rw [selection, acceptedId, completedId]
  refine ⟨⟨?_, fun sent_ => written (tracked.wrote (sent ▸ sent_)), ?_, ?_, ?_⟩, undecided⟩
  · rw [sent, startedId, acceptedId, completedId, selection]
    exact tracked.unsent
  · rw [sent, selection, startedId, acceptedId, completedId]
    intro sent_
    rw [seen sent_]
    exact tracked.window sent_
  · rw [settled, acceptedId, selection]
    exact tracked.unsettled
  · rw [selection, acceptedId]
    intro selected at_
    obtain ⟨same, proves, rest⟩ := tracked.proves selected at_
    exact ⟨same, proves.grow written ⟨[], by rw [seen (started selected at_), List.append_nil]⟩, rest⟩

theorem Sound.closes (sound : Sound input turn) : Sound input turn.close :=
  sound.quiet (fun valid => (Bool.or_eq_false_iff.mp valid).1) rfl rfl rfl ⟨rfl, rfl, rfl⟩ (fun _ among => among) fun _ => rfl

theorem Tracked.mark (tracked : Tracked input turn) (mark : Mark) (started completed : TurnId) (sent : turn.sent = true)
    (grows : ∀ middle, turn.selection = none → Window input turn.startedId turn.acceptedId turn.completedId middle →
      Window input started turn.acceptedId completed (middle ++ [mark]))
    (written : after.written = turn.written) (sent_ : after.sent = turn.sent) (settled : after.settled = turn.settled)
    (selection : after.selection = turn.selection) (seen : after.seen = turn.seen ++ [mark])
    (ids : after.startedId = started ∧ after.acceptedId = turn.acceptedId ∧ after.completedId = completed) :
    Tracked input after := by
  obtain ⟨startedId, acceptedId, completedId⟩ := ids
  refine ⟨fun unsent => ?_, fun _ => written ▸ tracked.wrote sent, fun _ none_ => ?_, ?_, ?_⟩
  · rw [sent_, sent] at unsent
    cases unsent
  · obtain ⟨early, middle, whole, window⟩ := tracked.window sent (selection ▸ none_)
    refine ⟨early, middle ++ [mark], by rw [seen, whole, List.append_assoc]; rfl, ?_⟩
    rw [startedId, acceptedId, completedId]
    exact grows middle (selection ▸ none_) window
  · rw [settled, acceptedId, selection]
    exact tracked.unsettled
  · rw [selection, acceptedId]
    intro selected at_
    obtain ⟨same, proves, rest⟩ := tracked.proves selected at_
    exact ⟨same, proves.grow (written ▸ fun _ among => among) ⟨[mark], seen⟩, rest⟩

theorem Sound.notified (sound : Sound input turn) (method : String) (params : NotificationParams) (now : ℤ)
    (fair : turn.invalid = false → turn.selection = none → NotedFairly turn method params = true) :
    Sound input (turn.notified input method params now) := by
  unfold ManagedTurn.notified
  split
  · cases sent : turn.sent with
    | false =>
      refine sound.quiet (fun valid => ?_) rfl rfl rfl ⟨rfl, rfl, rfl⟩ (fun _ among => among) fun sent_ => ?_
      · exact (Bool.or_eq_false_iff.mp (Bool.or_eq_false_iff.mp valid).1).1
      · rw [sent] at sent_
        cases sent_
    | true =>
      intro valid
      simp only [Bool.or_eq_false_iff, decide_eq_false_iff_not, ne_eq, not_not] at valid
      obtain ⟨⟨valid_, model⟩, effort⟩ := valid
      obtain ⟨tracked, undecided⟩ := sound valid_
      refine ⟨tracked.mark (.settings params.model params.effort) turn.startedId turn.completedId sent (fun middle _ window => ?_)
        rfl rfl rfl rfl rfl ⟨rfl, rfl, rfl⟩, undecided⟩
      rw [model, effort]
      exact window.settings_append
  · split
    · next reroute =>
      intro valid
      simp only [Bool.or_eq_false_iff, Bool.not_eq_false'] at valid
      obtain ⟨⟨valid_, accepted⟩, other⟩ := valid
      obtain ⟨tracked, undecided⟩ := sound valid_
      have sent : turn.sent = true := by
        cases unsent : turn.sent with
        | true => rfl
        | false =>
          rw [(tracked.unsent unsent).2.1] at accepted
          cases accepted
      refine ⟨tracked.mark (.rerouted params.turnId) turn.startedId turn.completedId sent (fun middle none_ _ => ?_)
        rfl rfl rfl rfl rfl ⟨rfl, rfl, rfl⟩, undecided⟩
      -- a reroute that leaves the turn valid is of another turn
      have fair_ := fair valid_ none_
      subst reroute
      simp [NotedFairly, accepted, other] at fair_
    · split
      · next starts =>
        intro valid
        simp only [Bool.or_eq_false_iff, Bool.not_eq_false', Bool.and_eq_false_imp, decide_eq_false_iff_not, ne_eq, not_not] at valid
        obtain ⟨⟨⟨valid_, sent⟩, isText⟩, same⟩ := valid
        obtain ⟨tracked, undecided⟩ := sound valid_
        refine ⟨tracked.mark (.started params.turn) params.turn turn.completedId sent (fun middle none_ window => ?_)
          rfl rfl rfl rfl rfl ⟨rfl, rfl, rfl⟩, undecided⟩
        have fair_ := fair valid_ none_
        subst starts
        exact window.started_append (text_truthy isText (by simpa [NotedFairly] using fair_)) same
      · split
        · next completes =>
          by_cases same : turn.startedId = params.turn ∨ turn.selection.isSome = true
          · refine finalize_sound fun valid => ?_
            simp only [Bool.or_eq_false_iff, Bool.not_eq_false'] at valid
            obtain ⟨⟨valid_, sent⟩, isText⟩ := valid
            obtain ⟨tracked, undecided⟩ := sound valid_
            refine tracked.mark (.completed params.turn) turn.startedId params.turn sent (fun middle none_ window => ?_)
              rfl rfl rfl rfl rfl ⟨rfl, rfl, rfl⟩
            have fair_ := fair valid_ none_
            subst completes
            have truthy := text_truthy isText (by simp [NotedFairly] at fair_; exact fair_.1)
            rcases same with same | decided
            · rw [← same] at truthy ⊢
              exact window.completed_append truthy
            · rw [none_] at decided
              cases decided
          · -- another turn than the one that started: the response is there, and contradicts one of the two
            simp only [not_or, Bool.not_eq_true, Option.isSome_eq_false_iff, Option.isNone_iff_eq_none] at same
            intro valid
            have before := finalize_valid valid
            simp only [Bool.or_eq_false_iff, Bool.not_eq_false'] at before
            obtain ⟨⟨valid_, sent⟩, isText⟩ := before
            have fair_ := fair valid_ same.2
            subst completes
            simp only [NotedFairly, String.reduceEq, if_false, if_true, sent, Bool.not_true, Bool.or_false, Bool.and_eq_true,
              Bool.or_eq_true, decide_eq_true_eq] at fair_
            have accepted := fair_.2.resolve_right fun other => same.1 other.symm
            exfalso
            refine Bool.false_ne_true (valid.symm.trans (finalize_differs ?_ ?_ ?_))
            · exact accepted
            · exact text_truthy isText fair_.1
            · exact same.1
        · split
          · intro valid
            cases valid
          · exact sound

end

section

variable {input : StartTurnInput} {turn : ManagedTurn}

theorem Sound.responded (sound : Sound input turn) (result : Option ResultTurn) (unsettled : turn.settled = false)
    (sent : turn.invalid = false → turn.sent = true) : Sound input (turn.responded input result) := by
  unfold ManagedTurn.responded
  split
  · next id status =>
    split
    · have decided : Sound input (({ turn.see (.accepted (.text id)) with
          acceptedId := .text id, settled := true, deadline := false } : ManagedTurn).finalize input) := by
        refine finalize_sound fun valid => ?_
        have valid_ : turn.invalid = false := valid
        obtain ⟨tracked, -⟩ := sound valid_
        obtain ⟨missing, none_⟩ := tracked.unsettled unsettled
        obtain ⟨early, middle, seen, window⟩ := tracked.window (sent valid_) none_
        rw [missing] at window
        refine {
          unsent := fun unsent => ?_
          wrote := tracked.wrote
          window := fun _ _ => ⟨early, middle ++ [.accepted (.text id)], ?_, window.accepted_append (.text id) nofun⟩
          unsettled := fun settled => ?_
          proves := fun selection at_ => ?_ }
        · rw [show turn.sent = false from unsent] at sent
          cases sent valid_
        · simp only [ManagedTurn.see, seen, List.append_assoc]
          rfl
        · cases settled
        · rw [show turn.selection = some selection from at_] at none_
          cases none_
      exact decided.quiet (fun valid => valid) rfl (accept_keeps turn input id).settled.symm rfl ⟨rfl, rfl, rfl⟩ (fun _ among => among) fun _ => rfl
    · exact Sound.fails none
  · exact Sound.fails none

theorem Sound.acknowledged (sound : Sound input turn) : Sound input turn.acknowledged := by
  unfold ManagedTurn.acknowledged
  split
  · exact Sound.fails none
  · refine sound.quiet (fun valid => valid) rfl rfl rfl ⟨rfl, rfl, rfl⟩ (fun _ among => ?_) fun _ => rfl
    split
    · exact List.mem_append_left _ among
    · exact among

theorem Sound.prepare (sound : Sound input turn) (fails : Bool) (unsent : turn.sent = false) : Sound input (turn.prepare input fails) := by
  unfold ManagedTurn.prepare
  dsimp only
  split
  · exact Sound.fails none
  · unfold ManagedTurn.request
    split
    · next requested at_ =>
      split at at_
      · cases at_
      · cases at_
        intro valid
        obtain ⟨tracked, -⟩ := sound valid
        obtain ⟨started, accepted, completed, none_⟩ := tracked.unsent unsent
        refine ⟨{
          unsent := nofun
          wrote := fun _ => List.mem_append_right _ List.mem_cons_self
          window := fun _ _ => ⟨turn.seen, [], rfl, ?_⟩
          unsettled := tracked.unsettled
          proves := fun selection at_ => ?_ }, fun _ truthy => ?_⟩
        · simp only [ManagedTurn.see, started, accepted, completed]
          exact ⟨nofun, nofun, nofun, nofun, nofun, nofun, nofun, nofun, nofun⟩
        · rw [show turn.selection = some selection from at_] at none_
          cases none_
        · rw [show turn.acceptedId = .missing from accepted] at truthy
          cases truthy
    · exact Sound.fails none

theorem Sound.received (sound : Sound input turn) (message : RpcMessage) (now : ℤ)
    (allowed : Allowed input turn (.frame (.message message) now) = true) : Sound input (turn.received input message now) := by
  have fair (valid : turn.invalid = false) (none_ : turn.selection = none) := by
    simpa only [Allowed, valid, none_, Bool.false_or, Option.isSome_none] using allowed
  unfold ManagedTurn.received
  cases methodAt : message.method with
  | some method =>
    rw [methodAt] at fair
    dsimp only at fair ⊢
    split
    · next params idAt paramsAt =>
      split
      · next own =>
        refine sound.notified method params now fun valid none_ => ?_
        simpa only [idAt, paramsAt, if_pos own] using fair valid none_
      · exact sound
    · exact sound
  | none =>
    rw [methodAt] at fair
    cases errorAt : message.error with
    | some error => exact Sound.fails _
    | none =>
      dsimp only
      split
      · exact sound.acknowledged
      · split
        · next response =>
          obtain ⟨idAt, unsettled⟩ := response
          rw [Bool.not_eq_true'] at unsettled
          refine sound.responded message.turn unsettled fun valid => ?_
          have none_ := ((sound valid).1.unsettled unsettled).2
          simpa [errorAt, idAt, unsettled] using fair valid none_
        · exact Sound.fails none

end

section

variable {input : StartTurnInput} {turn : ManagedTurn}

theorem Sound.step (sound : Sound input turn) (conducted : Conducted turn) {event : TurnEvent}
    (allowed : Allowed input turn event = true) : Sound input (turn.step input event) := by
  cases event with
  | opens =>
    unfold ManagedTurn.step ManagedTurn.request
    dsimp only
    split
    · split
      · exact Sound.fails none
      · exact sound.quiet (fun valid => valid) rfl rfl rfl ⟨rfl, rfl, rfl⟩ (List.subset_append_left _ _) fun _ => rfl
    · exact sound
  | frame frame now =>
    cases frame with
    | binary => exact Sound.fails none
    | unreadable => exact Sound.fails none
    | message message => exact sound.received message now allowed
  | prepared fails =>
    unfold ManagedTurn.step
    dsimp only
    split
    · next preparing =>
      refine sound.prepare fails ?_
      cases sent : turn.sent with
      | false => rfl
      | true =>
        rw [(conducted.prepares.1 sent).2] at preparing
        cases preparing
    · exact sound
  | deadline =>
    unfold ManagedTurn.step
    dsimp only
    split
    · exact Sound.fails none
    · exact sound
  | errors => exact Sound.fails none
  | closes =>
    unfold ManagedTurn.step
    dsimp only
    split
    · exact sound
    · exact Sound.fails none
  | callerCloses =>
    unfold ManagedTurn.step
    dsimp only
    split
    · exact sound.closes
    · exact sound

theorem Sound.evidence (sound : Sound input turn) : Evidence input turn := by
  intro selection reads
  unfold ManagedTurn.read at reads
  split at reads
  · cases reads
  · next valid =>
    split at reads
    · next selected at_ =>
      cases reads
      exact ((sound (Bool.not_eq_true _ ▸ valid)).1.proves selection at_).2
    · cases reads

end

/-- Where completions, responses and reroutes come as the observation takes them to come, verified is sound; and every start is
settled as it says. -/
theorem managed_turn_observed (socketPath : String) (input : StartTurnInput) (now : ℤ) :
    (∀ turn, Reached (fun turn => startObservedCodexTurn socketPath input now = some turn)
      (fun turn event => Allowed input turn event = true) (fun turn event => turn.step input event) turn → Evidence input turn) ∧
      ∀ start, startObservedCodexTurn socketPath input now = some start → ∀ events, Settles input start events := by
  have begins (start : ManagedTurn) (started : startObservedCodexTurn socketPath input now = some start) :
      Conducted start ∧ Sound input start := by
    unfold startObservedCodexTurn at started
    split at started
    · cases started
      refine ⟨⟨rfl, fun _ => ⟨rfl, rfl⟩, fun present => (present rfl).elim, fun _ => List.forall_mem_nil _, nofun, nofun, nofun⟩, fun _ => ⟨⟨?_, ?_, ?_, ?_, ?_⟩, ?_⟩⟩
      · exact fun _ => ⟨rfl, rfl, rfl, rfl⟩
      · exact nofun
      · exact nofun
      · exact fun _ => ⟨rfl, rfl⟩
      · exact nofun
      · exact fun _ truthy => by cases truthy
    · cases started
  refine ⟨fun turn reached => ?_, fun start started events => ?_⟩
  · have both := reached.invariant (fun start started => (begins start started)) fun turn event both allowed =>
      ⟨both.1.step event, both.2.step both.1 allowed⟩
    exact both.2.evidence
  · have conducted : Conducted (events.foldl (fun turn event => turn.step input event) start) := (begins start started).1.run events
    refine ⟨?_, fun came => ?_, fun refused => (conducted.refused refused).2, fun more invalid => ?_⟩
    · rw [conducted.once]
      split <;> omega
    · rw [conducted.once, if_pos ((begins start started).1.deadline events came)]
    · rw [read_invalid] at invalid ⊢
      rw [List.foldl_append]
      exact (run_lasts more).invalid invalid

namespace Sample

def input : StartTurnInput := {
  threadId := "thread"
  prompt := "Work"
  clientUserMessageId := "command"
  model := some "model-a"
  reasoningEffort := some "high" }

def start : ManagedTurn := { observedAt := 0 }

def notify (method id : String) : TurnEvent :=
  .frame (.message {
    method := some method
    params := some { threadId := some "thread", turn := .text id } }) 5

def response (id : ℤ) : TurnEvent :=
  .frame (.message {
    id := .number id
    turn := some { id := .text "turn", status := some "inProgress" } }) 5

def sends : List TurnEvent := [.opens, response 0, .prepared false]

end Sample

/-- The turn starts, is accepted and completes: its start is settled and its evidence is there. -/
theorem managed_turn_observed_completed : startObservedCodexTurn "/run/codex.sock" Sample.input 0 = some Sample.start ∧
      Evidence Sample.input ((Sample.sends ++ [Sample.notify "turn/started" "turn", Sample.response 1,
        Sample.notify "turn/completed" "turn"]).foldl (fun turn event => turn.step Sample.input event) Sample.start) ∧
      ((Sample.sends ++ [Sample.notify "turn/started" "turn", Sample.response 1,
        Sample.notify "turn/completed" "turn"]).foldl (fun turn event => turn.step Sample.input event) Sample.start).read.1 =
          .verified ∧
      Settles Sample.input Sample.start (Sample.sends ++ [.deadline]) := by
  have started : startObservedCodexTurn "/run/codex.sock" Sample.input 0 = some Sample.start := by decide +kernel
  have observed := managed_turn_observed "/run/codex.sock" Sample.input 0
  exact ⟨started, observed.1 _ (Reached.run (.start started) (by decide +kernel)), by decide +kernel, observed.2 _ started _⟩

/-- Another turn completes before the response: the completion of the accepted turn hides it. -/
theorem other_turn_hidden : ¬ ∀ input : StartTurnInput, ∀ start, startObservedCodexTurn "/run/codex.sock" input 0 = some start →
    ∀ events : List TurnEvent, Evidence input (events.foldl (fun turn event => turn.step input event) start) := by
  intro always
  have evidence := always Sample.input Sample.start (by decide +kernel) (Sample.sends ++ [Sample.notify "turn/started" "turn",
    Sample.notify "turn/completed" "other", Sample.notify "turn/completed" "turn", Sample.response 1])
    {
      modelId := some "model-a"
      reasoningEffort := some "high"
      threadId := "thread"
      turnId := .text "turn"
      commandId := "command"
      observedAt := 0
      completedAt := some 5 } (by decide +kernel)
  obtain ⟨early, middle, late, whole, accepted, order, clean⟩ := evidence.1.window
  cases early with
  | cons first rest =>
    have rest_ : [.started (.text "turn"), .completed (.text "other"), .completed (.text "turn"), .accepted (.text "turn")] =
      rest ++ .sent :: middle ++ late := (List.cons.inj whole).2
    have again : Mark.sent ∈ rest ++ .sent :: middle ++ late := by simp
    rw [← rest_] at again
    exact absurd again (by decide)
  | nil =>
    have front : middle <+: [.started (.text "turn"), .completed (.text "other"), .completed (.text "turn"),
      .accepted (.text "turn")] := ⟨late, (List.cons.inj whole).2.symm⟩
    have within : middle.length < 5 := Nat.lt_succ_of_le front.length_le
    have upTo : ∀ n < 5, Mark.accepted (.text "turn") ∈ [Mark.started (.text "turn"), .completed (.text "other"),
        .completed (.text "turn"), .accepted (.text "turn")].take n → .completed (.text "other") ∈
          [Mark.started (.text "turn"), .completed (.text "other"), .completed (.text "turn"), .accepted (.text "turn")].take n := by
      decide
    rw [List.prefix_iff_eq_take.mp front] at accepted
    have hidden := upTo middle.length within accepted
    rw [← List.prefix_iff_eq_take.mp front] at hidden
    exact absurd (clean _ hidden) (by decide)

end SpaceApp.AppServer
