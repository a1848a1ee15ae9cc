import SpaceApp.AppServer.ManagedTurn

/-! How the start of an observed turn is conducted: it is settled once, nothing is sent where it says so, and what is invalid stays so. -/

set_option autoImplicit false

namespace SpaceApp.AppServer

open SpaceApp.Foundation

section

variable {input : StartTurnInput} {turn : ManagedTurn}

theorem fail_invalid (rejection : Option Delivery) : (turn.fail rejection).invalid = true := by
  unfold ManagedTurn.fail ManagedTurn.close ManagedTurn.settle
  split <;> simp

theorem finalize_valid (valid : (turn.finalize input).invalid = false) : turn.invalid = false := by
  unfold ManagedTurn.finalize at valid
  split at valid
  · exact valid
  · simp only [ManagedTurn.close, Bool.or_eq_false_iff] at valid
    exact valid.1.1.1

/-- What a decision leaves as it is. -/
structure Keeps (turn after : ManagedTurn) : Prop where
  settled : after.settled = turn.settled
  settlements : after.settlements = turn.settlements
  sent : after.sent = turn.sent
  written : after.written = turn.written
  initialized : after.initialized = turn.initialized
  preparing : after.preparing = turn.preparing
  accepted : after.acceptedId = turn.acceptedId
  closed : turn.closed = true → after.closed = true
  open_ : turn.acceptedId = .missing → after.deadline = turn.deadline ∧ after.closed = turn.closed

theorem finalize_keeps (turn : ManagedTurn) : Keeps turn (turn.finalize input) := by
  unfold ManagedTurn.finalize ManagedTurn.close
  split
  · exact ⟨rfl, rfl, rfl, rfl, rfl, rfl, rfl, id, fun _ => ⟨rfl, rfl⟩⟩
  · next both =>
    refine ⟨rfl, rfl, rfl, rfl, rfl, rfl, rfl, fun _ => rfl, fun missing => ?_⟩
    rw [missing] at both
    exact (both rfl).elim

theorem accept_keeps (turn : ManagedTurn) (input : StartTurnInput) (id : String) :
    Keeps { turn.see (.accepted (.text id)) with acceptedId := .text id, settled := true, deadline := false }
      (({ turn.see (.accepted (.text id)) with acceptedId := .text id, settled := true, deadline := false } : ManagedTurn).finalize
        input) :=
  finalize_keeps _

end

def Sending.starts : Sending → Bool
  | .turnStart .. => true
  | _ => false

structure Conducted (turn : ManagedTurn) : Prop where
  once : turn.settlements.length = if turn.settled then 1 else 0
  pending : turn.settled = false → turn.deadline = true ∧ turn.closed = false
  responded : turn.acceptedId ≠ .missing → turn.settled = true
  unsent : turn.sent = false → ∀ sending ∈ turn.written, sending.starts = false
  refused : .rejected .notSent ∈ turn.settlements → turn.closed = true ∧ ∀ sending ∈ turn.written, sending.starts = false
  prepares : (turn.sent = true → turn.initialized = true ∧ turn.preparing = false) ∧
    (turn.preparing = true → turn.initialized = true)

section

variable {input : StartTurnInput} {turn after : ManagedTurn}

section
variable (conducted : Conducted turn)

include conducted

theorem Conducted.fail (rejection : Option Delivery)
    (sent : rejection = some .notSent → turn.sent = false) : Conducted (turn.fail rejection) := by
  unfold ManagedTurn.fail ManagedTurn.close ManagedTurn.settle
  cases settled : turn.settled with
  | true =>
    exact ⟨by simpa [settled] using conducted.once, nofun, fun _ => rfl, conducted.unsent,
      fun refused => ⟨rfl, (conducted.refused refused).2⟩, conducted.prepares⟩
  | false =>
    have none_ : turn.settlements = [] := List.length_eq_zero_iff.mp (by simpa [settled] using conducted.once)
    refine ⟨by simp [none_], nofun, fun _ => rfl, conducted.unsent, fun refused => ⟨rfl, ?_⟩, conducted.prepares⟩
    simp only [Bool.false_eq_true, if_false, none_, List.nil_append, List.mem_singleton, Settlement.rejected.injEq] at refused
    have unsent : turn.sent = false := by
      cases rejection with
      | some delivery => exact sent (congrArg some refused.symm)
      | none =>
        cases at_ : turn.sent with
        | false => rfl
        | true => simp [at_] at refused
    exact conducted.unsent unsent

theorem Conducted.close (settled : turn.settled = true) : Conducted turn.close :=
  { conducted with
      pending := fun unsettled => by simp [ManagedTurn.close, settled] at unsettled,
      refused := fun refused => ⟨rfl, (conducted.refused refused).2⟩ }

theorem Conducted.finalize : Conducted (turn.finalize input) := by
  have keeps : Keeps turn (turn.finalize input) := finalize_keeps turn
  refine ⟨?_, fun unsettled => ?_, ?_, ?_, fun refused => ?_, ?_⟩
  · rw [keeps.settlements, keeps.settled]
    exact conducted.once
  · rw [keeps.settled] at unsettled
    have missing : turn.acceptedId = .missing := by
      by_contra present
      rw [conducted.responded present] at unsettled
      cases unsettled
    rw [(keeps.open_ missing).1, (keeps.open_ missing).2]
    exact conducted.pending unsettled
  · rw [keeps.accepted, keeps.settled]
    exact conducted.responded
  · rw [keeps.sent, keeps.written]
    exact conducted.unsent
  · rw [keeps.settlements] at refused
    rw [keeps.written]
    exact ⟨keeps.closed (conducted.refused refused).1, (conducted.refused refused).2⟩
  · rw [keeps.sent, keeps.initialized, keeps.preparing]
    exact conducted.prepares

theorem Conducted.keep (keeps : Keeps turn after)
    (running : after.deadline = turn.deadline ∧ after.closed = turn.closed) : Conducted after := by
  refine ⟨?_, ?_, ?_, ?_, ?_, ?_⟩
  · rw [keeps.settlements, keeps.settled]
    exact conducted.once
  · rw [keeps.settled, running.1, running.2]
    exact conducted.pending
  · rw [keeps.accepted, keeps.settled]
    exact conducted.responded
  · rw [keeps.sent, keeps.written]
    exact conducted.unsent
  · rw [keeps.settlements, keeps.written, running.2]
    exact conducted.refused
  · rw [keeps.sent, keeps.initialized, keeps.preparing]
    exact conducted.prepares

theorem Conducted.notified (method : String) (params : NotificationParams) (now : ℤ) :
    Conducted (turn.notified input method params now) := by
  have seen (mark : Mark) (started completed : TurnId) (invalid : Bool) (completedAt : Option ℤ) :
      Conducted { turn.see mark with startedId := started, completedId := completed, invalid, completedAt } :=
    conducted.keep ⟨rfl, rfl, rfl, rfl, rfl, rfl, rfl, id, fun _ => ⟨rfl, rfl⟩⟩ ⟨rfl, rfl⟩
  unfold ManagedTurn.notified
  split
  · exact seen _ turn.startedId turn.completedId _ turn.completedAt
  · split
    · exact seen _ turn.startedId turn.completedId _ turn.completedAt
    · split
      · exact seen _ params.turn turn.completedId _ turn.completedAt
      · split
        · exact (seen _ turn.startedId params.turn _ (some now)).finalize
        · split
          · exact seen _ turn.startedId turn.completedId _ turn.completedAt
          · exact conducted

theorem Conducted.acknowledged : Conducted turn.acknowledged := by
  unfold ManagedTurn.acknowledged
  split
  · have marked : Conducted { turn with initialized := true } := { conducted with
      prepares := ⟨fun sent => ⟨rfl, (conducted.prepares.1 sent).2⟩, fun _ => rfl⟩ }
    exact marked.fail none nofun
  · next fresh =>
    simp only [Bool.or_eq_true, decide_eq_true_eq, not_or, Bool.not_eq_true] at fresh
    have unsent : turn.sent = false := by
      cases sent : turn.sent with
      | false => rfl
      | true =>
        rw [(conducted.prepares.1 sent).1] at fresh
        cases fresh.1
    have wrote (sending : Sending)
        (among : sending ∈ if turn.socket = .opened then turn.written ++ [.initialized] else turn.written) :
        sending ∈ turn.written ∨ sending = .initialized := by
      split at among
      · exact (List.mem_append.mp among).imp id List.mem_singleton.mp
      · exact .inl among
    refine { conducted with
        unsent := fun _ sending among => ?_, refused := fun refused => ⟨(conducted.refused refused).1, fun sending among => ?_⟩,
        prepares := ⟨fun sent => ?_, fun _ => rfl⟩ }
    · rcases wrote sending among with before | rfl
      · exact conducted.unsent unsent sending before
      · rfl
    · rcases wrote sending among with before | rfl
      · exact conducted.unsent unsent sending before
      · rfl
    · rw [show turn.sent = true from sent] at unsent
      cases unsent

theorem Conducted.responses (result : Option ResultTurn) (unsettled : turn.settled = false) :
    Conducted (turn.responded input result) := by
  have none_ : turn.settlements = [] := List.length_eq_zero_iff.mp (by simpa [unsettled] using conducted.once)
  unfold ManagedTurn.responded
  split
  · next id status =>
    split
    · have keeps := accept_keeps turn input id
      have before := keeps.settlements.trans none_
      refine ⟨?_, nofun, fun _ => rfl, ?_, fun refused => ?_, ?_⟩
      · rw [ManagedTurn.settle, before]
        rfl
      · rw [ManagedTurn.settle, keeps.sent, keeps.written]
        exact conducted.unsent
      · rw [ManagedTurn.settle, before] at refused
        cases List.mem_singleton.mp refused
      · rw [ManagedTurn.settle, keeps.sent, keeps.initialized, keeps.preparing]
        exact conducted.prepares
    · exact conducted.fail none nofun
  · exact conducted.fail none nofun

theorem Conducted.prepare (fails : Bool) (initialized : turn.initialized = true) : Conducted (turn.prepare input fails) := by
  have ready : Conducted { turn with preparing := false } :=
    { conducted with prepares := ⟨fun sent => ⟨(conducted.prepares.1 sent).1, rfl⟩, nofun⟩ }
  unfold ManagedTurn.prepare
  dsimp only
  split
  · exact ready.fail none nofun
  · next clear =>
    simp only [Bool.or_eq_true, not_or, Bool.not_eq_true] at clear
    have sent (written : List Sending) (seen : List Mark) :
        Conducted { turn with preparing := false, sent := true, written, seen } := by
      refine { conducted with unsent := nofun, refused := fun refused => ?_, prepares := ⟨fun _ => ⟨initialized, rfl⟩, nofun⟩ }
      rw [(conducted.refused refused).1] at clear
      cases clear.1.2
    unfold ManagedTurn.request
    split
    · next requested at_ =>
      split at at_
      · cases at_
      · cases at_
        exact sent _ _
    · exact (sent turn.written turn.seen).fail none nofun

theorem Conducted.received (message : RpcMessage) (now : ℤ) : Conducted (turn.received input message now) := by
  unfold ManagedTurn.received
  split
  · split
    · split
      · exact conducted.notified _ _ now
      · exact conducted
    · exact conducted
  · split
    · refine conducted.fail _ fun refuses => ?_
      split at refuses <;> cases refuses
    · split
      · exact conducted.acknowledged
      · split
        · next response => exact conducted.responses message.turn (by simpa using response.2)
        · exact conducted.fail none nofun

theorem Conducted.step (event : TurnEvent) : Conducted (turn.step input event) := by
  cases event with
  | opens =>
    unfold ManagedTurn.step
    dsimp only
    have opened : Conducted { turn with socket := .opened } := { conducted with }
    split
    · cases asked : ({ turn with socket := .opened } : ManagedTurn).request .initializeRequest with
      | none => exact opened.fail none nofun
      | some requested =>
        unfold ManagedTurn.request at asked
        split at asked
        · cases asked
        · cases asked
          have silent (known : ∀ sending ∈ turn.written, sending.starts = false) :
              ∀ sending ∈ turn.written ++ [.initializeRequest], sending.starts = false := by
            intro sending among
            rcases List.mem_append.mp among with before | last
            · exact known sending before
            · rw [List.mem_singleton.mp last]
              rfl
          exact { conducted with
              unsent := fun unsent => silent (conducted.unsent unsent),
              refused := fun refused => ⟨(conducted.refused refused).1, silent (conducted.refused refused).2⟩ }
    · exact conducted
  | frame frame now =>
    cases frame with
    | binary => exact conducted.fail none nofun
    | unreadable => exact conducted.fail none nofun
    | message message => exact conducted.received message now
  | prepared fails =>
    unfold ManagedTurn.step
    dsimp only
    split
    · next preparing => exact conducted.prepare fails (conducted.prepares.2 preparing)
    · exact conducted
  | deadline =>
    unfold ManagedTurn.step
    dsimp only
    split
    · exact conducted.fail none nofun
    · exact conducted
  | errors => exact conducted.fail none nofun
  | closes =>
    unfold ManagedTurn.step
    dsimp only
    split
    · exact conducted
    · have lost : Conducted { turn with socket := .closing } := { conducted with }
      exact lost.fail none nofun
  | callerCloses =>
    unfold ManagedTurn.step
    dsimp only
    split
    · next given =>
      refine conducted.close ?_
      cases settled : turn.settled with
      | true => rfl
      | false =>
        have none_ : turn.settlements = [] := List.length_eq_zero_iff.mp (by simpa [settled] using conducted.once)
        rw [none_] at given
        cases given
    · exact conducted

end

end

section

variable {input : StartTurnInput} {turn : ManagedTurn}

/-- What is invalid stays so, and what is settled. -/
structure Lasts (turn after : ManagedTurn) : Prop where
  invalid : turn.invalid = true → after.invalid = true
  settled : turn.settled = true → after.settled = true

theorem Lasts.refl (turn : ManagedTurn) : Lasts turn turn := ⟨id, id⟩

theorem fail_settled (rejection : Option Delivery) : (turn.fail rejection).settled = true := by
  unfold ManagedTurn.fail ManagedTurn.settle ManagedTurn.close
  split
  · next settled => exact settled
  · rfl

theorem fail_lasts (rejection : Option Delivery) (after : ManagedTurn) : Lasts after (turn.fail rejection) :=
  ⟨fun _ => fail_invalid rejection, fun _ => fail_settled rejection⟩

theorem finalize_lasts {after : ManagedTurn} (lasts : Lasts turn after) : Lasts turn (after.finalize input) := by
  refine ⟨fun invalid => ?_, fun settled => (finalize_keeps after).settled.trans (lasts.settled settled)⟩
  cases valid : (after.finalize input).invalid with
  | true => rfl
  | false =>
    have before := lasts.invalid invalid
    rw [finalize_valid valid] at before
    cases before

theorem notified_lasts (method : String) (params : NotificationParams) (now : ℤ) :
    Lasts turn (turn.notified input method params now) := by
  unfold ManagedTurn.notified
  split
  · exact ⟨fun invalid => by simp only [invalid, Bool.true_or], id⟩
  · split
    · exact ⟨fun invalid => by simp only [invalid, Bool.true_or], id⟩
    · split
      · exact ⟨fun invalid => by simp only [invalid, Bool.true_or], id⟩
      · split
        · exact finalize_lasts ⟨fun invalid => by simp only [invalid, Bool.true_or], id⟩
        · split
          · exact ⟨fun _ => rfl, id⟩
          · exact Lasts.refl turn

theorem received_lasts (message : RpcMessage) (now : ℤ) : Lasts turn (turn.received input message now) := by
  unfold ManagedTurn.received
  split
  · split
    · split
      · exact notified_lasts _ _ now
      · exact Lasts.refl turn
    · exact Lasts.refl turn
  · split
    · exact fail_lasts _ turn
    · split
      · unfold ManagedTurn.acknowledged
        split
        · exact fail_lasts none turn
        · exact ⟨id, id⟩
      · split
        · unfold ManagedTurn.responded
          split
          · next given status _ =>
            split
            · have accepts : Lasts turn { turn.see (.accepted (.text given)) with
                  acceptedId := .text given, settled := true, deadline := false } := ⟨id, fun _ => rfl⟩
              exact ⟨(finalize_lasts accepts).invalid, fun _ => rfl⟩
            · exact fail_lasts none turn
          · exact fail_lasts none turn
        · exact fail_lasts none turn

theorem step_lasts (event : TurnEvent) : Lasts turn (turn.step input event) := by
  cases event with
  | opens =>
    unfold ManagedTurn.step ManagedTurn.request
    dsimp only
    split
    · split
      · exact fail_lasts none turn
      · exact ⟨id, id⟩
    · exact Lasts.refl turn
  | frame frame now =>
    cases frame with
    | binary => exact fail_lasts none turn
    | unreadable => exact fail_lasts none turn
    | message message => exact received_lasts message now
  | prepared fails =>
    unfold ManagedTurn.step ManagedTurn.prepare ManagedTurn.request
    dsimp only
    split
    · split
      · exact fail_lasts none turn
      · split
        · next requested asked =>
          split at asked
          · cases asked
          · cases asked
            exact ⟨id, id⟩
        · exact fail_lasts none turn
    · exact Lasts.refl turn
  | deadline =>
    unfold ManagedTurn.step
    dsimp only
    split
    · exact fail_lasts none turn
    · exact Lasts.refl turn
  | errors => exact fail_lasts none turn
  | closes =>
    unfold ManagedTurn.step
    dsimp only
    split
    · exact Lasts.refl turn
    · exact fail_lasts none turn
  | callerCloses =>
    unfold ManagedTurn.step ManagedTurn.close
    dsimp only
    split
    · exact ⟨fun invalid => by simp only [invalid, Bool.true_or], id⟩
    · exact Lasts.refl turn

theorem run_lasts (events : List TurnEvent) : Lasts turn (events.foldl (fun turn event => turn.step input event) turn) := by
  induction events generalizing turn with
  | nil => exact Lasts.refl turn
  | cons event rest ih =>
    have first : Lasts turn (turn.step input event) := step_lasts event
    exact ⟨fun invalid => ih.invalid (first.invalid invalid), fun settled => ih.settled (first.settled settled)⟩

theorem Conducted.run (conducted : Conducted turn) (events : List TurnEvent) :
    Conducted (events.foldl (fun turn event => turn.step input event) turn) := by
  induction events generalizing turn with
  | nil => exact conducted
  | cons event rest ih => exact ih (conducted.step event)

theorem Conducted.deadline (conducted : Conducted turn) (events : List TurnEvent) (came : .deadline ∈ events) :
    (events.foldl (fun turn event => turn.step input event) turn).settled = true := by
  induction events generalizing turn with
  | nil => cases came
  | cons event rest ih =>
    rcases List.mem_cons.mp came with rfl | later
    · refine (run_lasts rest).settled ?_
      cases settled : turn.settled with
      | true => exact (step_lasts .deadline).settled settled
      | false =>
        have pending := (conducted.pending settled).1
        simp only [ManagedTurn.step, pending, if_true]
        exact fail_settled none
    · exact ih (conducted.step event) later

end

/-- How a start is settled: at most once, and once its deadline has come; not sent means that nothing is ever written; and what
is invalid never reads verified. -/
structure Settles (input : StartTurnInput) (start : ManagedTurn) (events : List TurnEvent) : Prop where
  once : (events.foldl (fun turn event => turn.step input event) start).settlements.length ≤ 1
  deadline : .deadline ∈ events → (events.foldl (fun turn event => turn.step input event) start).settlements.length = 1
  unsent : .rejected .notSent ∈ (events.foldl (fun turn event => turn.step input event) start).settlements →
    ∀ sending ∈ (events.foldl (fun turn event => turn.step input event) start).written, sending.starts = false
  invalid : ∀ more, (events.foldl (fun turn event => turn.step input event) start).read.1 = .invalid →
    ((events ++ more).foldl (fun turn event => turn.step input event) start).read.1 = .invalid

theorem read_invalid (turn : ManagedTurn) : turn.read.1 = .invalid ↔ turn.invalid = true := by
  unfold ManagedTurn.read
  cases turn.invalid with
  | true => simp
  | false => cases turn.selection <;> simp

end SpaceApp.AppServer
