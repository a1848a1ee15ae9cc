import Mathlib.Data.List.Basic
import Mathlib.Logic.Function.Basic

/-! The slots of a provider (`ProviderSlots`) and the moves that take them (`acquireSlots`, `chooseMove`).

A call of `acquire` is its number of arrival; aborting a signal is `onAbort` for each call that waits on it.
-/

set_option autoImplicit false

namespace SpaceApp.Chess

inductive SlotCall where
  | waiting
  /-- Handed a slot by a release, and not yet gone on after the `await`. -/
  | handed
  | held
  | released
  | rejected
  deriving DecidableEq

def SlotCall.granted : SlotCall → Bool
  | .handed | .held => true
  | _ => false

structure ProviderSlots where
  active : Nat := 0
  waiters : List Nat := []
  calls : List SlotCall := []

inductive SlotEvent where
  | acquire (aborted : Bool)
  | resume (call : Nat)
  | onAbort (call : Nat)
  | release (call : Nat)

namespace ProviderSlots

def step (limit : Nat) (slots : ProviderSlots) : SlotEvent → ProviderSlots
  | .acquire aborted =>
    if aborted then { slots with calls := slots.calls ++ [.rejected] }
    else if slots.active < limit then { slots with active := slots.active + 1, calls := slots.calls ++ [.held] }
    else { slots with waiters := slots.waiters ++ [slots.calls.length], calls := slots.calls ++ [.waiting] }
  | .resume call => if slots.calls[call]? = some .handed then { slots with calls := slots.calls.set call .held } else slots
  -- a call that was handed its slot no longer listens
  | .onAbort call =>
    if call ∈ slots.waiters then
      { slots with waiters := slots.waiters.erase call, calls := slots.calls.set call .rejected }
    else slots
  | .release call =>
    if slots.calls[call]? = some .held then
      let calls := slots.calls.set call .released
      match slots.waiters with
      | next :: rest => { slots with waiters := rest, calls := calls.set next .handed }
      | [] => { slots with active := slots.active - 1, calls }
    else slots

/-- How many have a slot they have not released. -/
def granted (slots : ProviderSlots) : Nat := slots.calls.countP SlotCall.granted

def Has (slots : ProviderSlots) (call : Nat) : Prop := slots.calls[call]? = some .handed ∨ slots.calls[call]? = some .held

def Gone (slots : ProviderSlots) (call : Nat) : Prop :=
  slots.calls[call]? = some .released ∨ slots.calls[call]? = some .rejected

structure Kept (limit : Nat) (slots : ProviderSlots) : Prop where
  inUse : slots.active = slots.granted
  within : slots.active ≤ limit
  full : slots.waiters ≠ [] → slots.active = limit
  ordered : slots.waiters.Pairwise (· < ·)
  waiting : ∀ call, call ∈ slots.waiters ↔ slots.calls[call]? = some .waiting

section

variable {limit : Nat} {slots : ProviderSlots}

theorem set_granted {calls : List SlotCall} {call : Nat} {was : SlotCall} (there : calls[call]? = some was) (now : SlotCall) :
    (calls.set call now).countP SlotCall.granted + was.granted.toNat = calls.countP SlotCall.granted + now.granted.toNat := by
  obtain ⟨inside, same⟩ := List.getElem?_eq_some_iff.mp there
  have counted := @List.countP_set _ SlotCall.granted calls call now inside
  have some_ : was.granted.toNat ≤ calls.countP SlotCall.granted := by
    cases yes : was.granted with
    | false => exact Nat.zero_le _
    | true => exact List.countP_pos_iff.mpr ⟨was, List.mem_of_getElem? there, yes⟩
  have bit : ∀ b : Bool, (if b then 1 else 0) = b.toNat := by decide
  rw [same, bit, bit] at counted
  omega

theorem step_kept (kept : slots.Kept limit) (event : SlotEvent) : (slots.step limit event).Kept limit := by
  obtain ⟨inUse, within, full, ordered, waiting⟩ := id kept
  unfold granted at inUse
  cases event with
  | acquire aborted =>
    simp only [step]
    split
    · exact ⟨by simpa [granted, SlotCall.granted] using inUse, within, full, ordered, by grind⟩
    split
    · next room => exact ⟨by simpa [granted, SlotCall.granted] using inUse, room, by grind, ordered, by grind⟩
    · exact ⟨by simpa [granted, SlotCall.granted] using inUse, within, by grind, by grind, by grind⟩
  | resume call =>
    simp only [step]
    split
    · next there =>
      exact ⟨inUse.trans (Nat.add_right_cancel (set_granted there .held)).symm, within, full, ordered, by grind⟩
    · exact kept
  | onAbort call =>
    simp only [step]
    split
    · next there =>
      have counted : _ = _ := set_granted ((waiting call).mp there) .rejected
      have apart : slots.waiters.Nodup := ordered.imp Nat.ne_of_lt
      exact ⟨inUse.trans counted.symm, within, fun _ => full (List.ne_nil_of_mem there),
        ordered.sublist List.erase_sublist, by grind [List.Nodup.mem_erase_iff]⟩
    · exact kept
  | release call =>
    simp only [step]
    split
    · next there =>
      have counted := set_granted there .released
      split
      · next next_ rest waits =>
        have moved : (slots.calls.set call .released)[next_]? = some .waiting := by grind
        have handed := set_granted moved .handed
        rw [waits] at full ordered
        simp only [SlotCall.granted, Bool.toNat_true, Bool.toNat_false] at counted handed
        exact ⟨by simp only [granted]; omega, within, fun _ => full (List.cons_ne_nil _ _), ordered.of_cons,
          by grind [List.pairwise_cons]⟩
      · next none_ =>
        exact ⟨by rw [inUse]; exact (Nat.eq_sub_of_add_eq counted).symm, Nat.le_trans (Nat.sub_le _ _) within,
          fun some_ => absurd none_ some_, ordered, by grind⟩
    · exact kept

/-- A slot goes to who came first. -/
theorem step_first_come (kept : slots.Kept limit) (event : SlotEvent) {call : Nat} (now : (slots.step limit event).Has call)
    (before : ¬slots.Has call) : ∀ other ∈ slots.waiters, call ≤ other := by
  intro other waits
  have full := kept.full (List.ne_nil_of_mem waits)
  have ordered := kept.ordered
  unfold Has at now before
  cases event <;> simp only [step] at now <;> grind [List.pairwise_cons]

/-- Past its `await`: it has its release function, or nothing. -/
def Settled (slots : ProviderSlots) (call : Nat) : Prop := slots.calls[call]? = some .held ∨ slots.Gone call

theorem step_settled (kept : slots.Kept limit) {call : Nat} (settled : slots.Settled call) (event : SlotEvent) :
    (slots.step limit event).Settled call := by
  have waiting := kept.waiting call
  unfold Settled Gone at *
  cases event <;> simp only [step] <;> grind

theorem step_gone (kept : slots.Kept limit) {call : Nat} (gone : slots.Gone call) (event : SlotEvent) :
    (slots.step limit event).Gone call := by
  have waiting := kept.waiting call
  unfold Gone at *
  cases event <;> simp only [step] <;> grind

theorem release_gone {call : Nat} (kept : slots.Kept limit) (settled : slots.Settled call) :
    (slots.step limit (.release call)).Gone call := by
  have waiting := kept.waiting
  unfold Settled Gone at *
  simp only [step]
  grind

end

end ProviderSlots

def CLI_SLOT_GROUP : String := "cli"

inductive SlotPhase where
  | provider (slot : Nat)
  | cli (slot cliSlot : Nat)
  | playing (slot : Nat) (cliSlot : Option Nat)
  /-- Failed in `acquireSlots`, or released in the end. -/
  | ended (slot : Nat) (cliSlot : Option Nat)

/-- A call of `chooseMove`. -/
structure SlotTurn where
  providerId : String
  phase : SlotPhase

structure MoveSlots where
  slots : String → ProviderSlots := fun _ => {}
  turns : List SlotTurn := []

inductive MoveEvent where
  | chooseMove (providerId : String) (aborted : Bool)
  | resume (group : String) (call : Nat)
  | onAbort (group : String) (call : Nat)
  /-- `acquireSlots` goes on after an `await` that is settled. -/
  | goOn (turn : Nat) (aborted : Bool)
  /-- The `finally` of `chooseMove`, after a move, a failure or an abort. -/
  | release (turn : Nat)

namespace MoveSlots

variable (limits : String → Nat)

def on (state : MoveSlots) (group : String) (event : SlotEvent) : MoveSlots :=
  { state with slots := Function.update state.slots group ((state.slots group).step (limits group) event) }

def put (state : MoveSlots) (turn : Nat) (providerId : String) (phase : SlotPhase) : MoveSlots :=
  { state with turns := state.turns.set turn ⟨providerId, phase⟩ }

def step (isCliProvider : String → Bool) (state : MoveSlots) : MoveEvent → MoveSlots
  | .chooseMove providerId aborted =>
    { state.on limits providerId (.acquire aborted) with
      turns := state.turns ++ [⟨providerId, .provider (state.slots providerId).calls.length⟩] }
  | .resume group call => state.on limits group (.resume call)
  | .onAbort group call => state.on limits group (.onAbort call)
  | .goOn turn aborted =>
    match state.turns[turn]? with
    | some ⟨providerId, .provider slot⟩ =>
      match (state.slots providerId).calls[slot]? with
      | some .held =>
        if isCliProvider providerId then
          (state.on limits CLI_SLOT_GROUP (.acquire aborted)).put turn providerId
            (.cli slot (state.slots CLI_SLOT_GROUP).calls.length)
        else state.put turn providerId (.playing slot none)
      | some .rejected => state.put turn providerId (.ended slot none)
      | _ => state
    | some ⟨providerId, .cli slot cliSlot⟩ =>
      match (state.slots CLI_SLOT_GROUP).calls[cliSlot]? with
      | some .held => state.put turn providerId (.playing slot cliSlot)
      | some .rejected => (state.on limits providerId (.release slot)).put turn providerId (.ended slot cliSlot)
      | _ => state
    | _ => state
  | .release turn =>
    match state.turns[turn]? with
    | some ⟨providerId, .playing slot cliSlot⟩ =>
      let left := match cliSlot with
        | some call => state.on limits CLI_SLOT_GROUP (.release call)
        | none => state
      (left.on limits providerId (.release slot)).put turn providerId (.ended slot cliSlot)
    | _ => state

def Fine (slots : String → ProviderSlots) (turn : SlotTurn) : Prop :=
  match turn.phase with
  | .provider _ => True
  | .cli slot _ => (slots turn.providerId).Settled slot
  | .playing slot cliSlot =>
    (slots turn.providerId).Settled slot ∧ ∀ call ∈ cliSlot, (slots CLI_SLOT_GROUP).Settled call
  | .ended slot cliSlot => (slots turn.providerId).Gone slot ∧ ∀ call ∈ cliSlot, (slots CLI_SLOT_GROUP).Gone call

structure Kept (state : MoveSlots) : Prop where
  slots : ∀ group, (state.slots group).Kept (limits group)
  turns : ∀ turn ∈ state.turns, Fine state.slots turn

section

variable {limits : String → Nat} {state : MoveSlots}

theorem on_keeps {holds : ProviderSlots → Prop} {group : String} (before : holds (state.slots group))
    (after : ∀ event, holds ((state.slots group).step (limits group) event)) (other : String) (event : SlotEvent) :
    holds ((state.on limits other event).slots group) := by
  by_cases same : group = other
  · subst same
    simpa [on] using after event
  · simpa [on, same] using before

theorem on_gone (kept : state.Kept limits) {group : String} {call : Nat} (gone : (state.slots group).Gone call) :
    ∀ other event, ((state.on limits other event).slots group).Gone call :=
  @on_keeps _ _ (·.Gone call) _ gone (ProviderSlots.step_gone (kept.slots group) gone)

theorem on_settled (kept : state.Kept limits) {group : String} {call : Nat} (settled : (state.slots group).Settled call) :
    ∀ other event, ((state.on limits other event).slots group).Settled call :=
  @on_keeps _ _ (·.Settled call) _ settled (ProviderSlots.step_settled (kept.slots group) settled)

theorem on_kept (kept : state.Kept limits) (group : String) (event : SlotEvent) : (state.on limits group event).Kept limits where
  slots other := on_keeps (kept.slots other) (ProviderSlots.step_kept (kept.slots other)) group event
  turns turn there := by
    have fine := kept.turns turn there
    unfold Fine at fine ⊢
    split at fine
    · trivial
    · exact on_settled kept fine group event
    · exact ⟨on_settled kept fine.1 group event, fun call some_ => on_settled kept (fine.2 call some_) group event⟩
    · exact ⟨on_gone kept fine.1 group event, fun call some_ => on_gone kept (fine.2 call some_) group event⟩

theorem put_kept (kept : state.Kept limits) (turn : Nat) {providerId : String} {phase : SlotPhase}
    (fine : Fine state.slots ⟨providerId, phase⟩) : (state.put turn providerId phase).Kept limits where
  slots := kept.slots
  turns other there := by
    rcases List.mem_or_eq_of_mem_set there with inside | rfl
    · exact kept.turns other inside
    · exact fine

theorem release_gone (kept : state.Kept limits) {group : String} {call : Nat} (settled : (state.slots group).Settled call) :
    ((state.on limits group (.release call)).slots group).Gone call := by
  simpa [on] using ProviderSlots.release_gone (kept.slots group) settled

theorem step_kept (isCliProvider : String → Bool) (kept : state.Kept limits) (event : MoveEvent) :
    (state.step limits isCliProvider event).Kept limits := by
  cases event with
  | chooseMove providerId aborted =>
    have acquired := on_kept kept providerId (.acquire aborted)
    refine ⟨acquired.slots, fun turn there => ?_⟩
    rcases List.mem_append.mp there with inside | new
    · exact acquired.turns turn inside
    · rw [List.mem_singleton.mp new]
      trivial
  | resume group call => exact on_kept kept group _
  | onAbort group call => exact on_kept kept group _
  | goOn turn aborted =>
    simp only [step]
    split
    · split
      · next has =>
        split
        · exact put_kept (on_kept kept _ _) turn (on_settled kept (.inl has) _ _)
        · exact put_kept kept turn ⟨.inl has, nofun⟩
      · next fell => exact put_kept kept turn ⟨.inr fell, nofun⟩
      · exact kept
    · next providerId slot cliSlot found =>
      have settled : (state.slots providerId).Settled slot := kept.turns _ (List.mem_of_getElem? found)
      split
      · next has => exact put_kept kept turn ⟨settled, by simpa using .inl has⟩
      · next fell =>
        refine put_kept (on_kept kept _ _) turn ⟨release_gone kept settled, ?_⟩
        simpa using on_gone kept (.inr fell) _ _
      · exact kept
    · exact kept
  | release turn =>
    simp only [step]
    split
    · next providerId slot cliSlot found =>
      obtain ⟨settled, cli⟩ : Fine state.slots ⟨providerId, .playing slot cliSlot⟩ := kept.turns _ (List.mem_of_getElem? found)
      cases cliSlot with
      | none => exact put_kept (on_kept kept _ _) turn ⟨release_gone kept settled, nofun⟩
      | some call =>
        have first := on_kept kept CLI_SLOT_GROUP (.release call)
        refine put_kept (on_kept first _ _) turn ⟨release_gone first (on_settled kept settled _ _), ?_⟩
        simpa using on_gone first (release_gone kept (cli call rfl)) _ _
    · exact kept

end

end MoveSlots

end SpaceApp.Chess
