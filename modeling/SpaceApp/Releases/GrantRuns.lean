import SpaceApp.Foundation.Reach
import SpaceApp.Releases.QueueGrants

/-! What every run of queue grants keeps: each take uses up an authorization, and, where no refusal comes
while a promote is held, follows the operator's last word.
-/

set_option autoImplicit false

namespace SpaceApp.Releases

open SpaceApp.Foundation SpaceApp.Gateway

def settles (pane : String) : Entry → Bool
  | .authorized other _ _ _ => other = pane
  | .took other _ _ => other = pane
  | .line _ _ => false

def decides (pane : String) : Entry → Bool
  | .line other _ => other = pane
  | .authorized other op server _ => other = pane && op = promoteOp && server
  | .took _ _ _ => false

/-- Each take uses up the last authorization of its pane, which was for its operation and no older than 30 minutes. -/
def Consumed (log : List Entry) : Prop :=
  ∀ later pane op at_ earlier, log = later ++ .took pane op at_ :: earlier →
    ∃ server since, earlier.find? (settles pane) = some (.authorized pane op server since) ∧
      since ≤ at_ ∧ at_ ≤ since + PENDING_MS

/-- No promote is taken while the last word on it was a refusal. -/
def Obeyed (log : List Entry) : Prop :=
  ∀ later pane at_ earlier, log = later ++ .took pane promoteOp at_ :: earlier →
    earlier.find? (decides pane) ≠ some (.line pane true)

section

variable {log : List Entry} {entry : Entry} {pane : String}

theorem split_cons {later earlier : List Entry} {taken : Entry} (same : entry :: log = later ++ taken :: earlier) :
    (entry = taken ∧ log = earlier) ∨ ∃ rest, log = rest ++ taken :: earlier := by
  cases later with
  | nil =>
    cases same
    exact .inl ⟨rfl, rfl⟩
  | cons first rest =>
    cases same
    exact .inr ⟨rest, rfl⟩

theorem Consumed.cons (consumed : Consumed log) (free : ∀ pane op at_, entry ≠ .took pane op at_) : Consumed (entry :: log) := by
  intro later pane op at_ earlier same
  rcases split_cons same with ⟨taken, -⟩ | ⟨rest, same⟩
  · exact (free _ _ _ taken).elim
  · exact consumed rest pane op at_ earlier same

theorem Consumed.take {op : Text} {at_ since : ℤ} {server : Bool} (consumed : Consumed log)
    (last : log.find? (settles pane) = some (.authorized pane op server since)) (old : since ≤ at_)
    (young : at_ ≤ since + PENDING_MS) : Consumed (.took pane op at_ :: log) := by
  intro later other otherOp otherAt earlier same
  rcases split_cons same with ⟨taken, rfl⟩ | ⟨rest, same⟩
  · cases taken
    exact ⟨server, since, last, old, young⟩
  · exact consumed rest other otherOp otherAt earlier same

theorem Obeyed.cons (obeyed : Obeyed log) (free : ∀ pane at_, entry ≠ .took pane promoteOp at_) : Obeyed (entry :: log) := by
  intro later pane at_ earlier same
  rcases split_cons same with ⟨taken, -⟩ | ⟨rest, same⟩
  · exact (free _ _ taken).elim
  · exact obeyed rest pane at_ earlier same

theorem Obeyed.take {op : Text} {at_ : ℤ} (obeyed : Obeyed log)
    (last : op = promoteOp → log.find? (decides pane) ≠ some (.line pane true)) : Obeyed (.took pane op at_ :: log) := by
  intro later other otherAt earlier same
  rcases split_cons same with ⟨taken, rfl⟩ | ⟨rest, same⟩
  · cases taken
    exact last rfl
  · exact obeyed rest other otherAt earlier same

end

section

variable {deployment : Deployment} {grants : Grants} {pending : String → Option Held} {log : List Entry} {clock now : ℤ}
  {pane : String}

@[simp] theorem saveState_pending : (saveState deployment grants now).pending = grants.pending := by
  unfold saveState
  split <;> rfl

@[simp] theorem saveState_log : (saveState deployment grants now).log = grants.log := by
  unfold saveState
  split <;> rfl

/-- A held grant is the last thing its pane was given, and nothing was taken twice. -/
structure Holding (pending : String → Option Held) (log : List Entry) (clock : ℤ) : Prop where
  held : ∀ pane held, pending pane = some held → ∃ server since,
    log.find? (settles pane) = some (.authorized pane held.op server since) ∧
      held.until_ = since + PENDING_MS ∧ since ≤ clock
  consumed : Consumed log

structure Stored (deployment : Deployment) (grants : Grants) : Prop where
  file : ∀ saved, grants.file = some saved → ∀ pane held mac, saved.pending pane = some (held, mac) →
    grants.pending pane = some held ∧ mac = deployment.heldMac deployment.signingSecret pane held
  kept : grants.file ≠ none → deployment.stateFile = true ∧ deployment.signingSecret ≠ ""

/-- Where the operator's last word was a refusal, no promote is held any more. -/
structure Refusing (pending : String → Option Held) (log : List Entry) (clock : ℤ) : Prop where
  refused : ∀ pane, log.find? (decides pane) = some (.line pane true) →
    ∀ held, pending pane = some held → held.op = promoteOp → held.until_ < clock
  obeyed : Obeyed log

theorem saveState_stored (kept : grants.file ≠ none → deployment.stateFile = true ∧ deployment.signingSecret ≠ "") :
    Stored deployment (saveState deployment grants now) := by
  unfold saveState
  split
  · next unsaved =>
    have absent : grants.file = none := by
      by_contra present
      obtain ⟨file, secret⟩ := kept present
      rcases unsaved with none_ | empty
      · rw [file] at none_
        cases none_
      · exact secret empty
    refine ⟨?_, kept⟩
    rw [absent]
    nofun
  · next saves =>
    rw [not_or, Bool.not_eq_false] at saves
    refine ⟨?_, fun _ => saves⟩
    rintro saved ⟨⟩ pane held mac found
    obtain ⟨other, kept, same⟩ := Option.map_eq_some_iff.mp found
    cases same
    exact ⟨(Option.filter_eq_some_iff.mp kept).1, rfl⟩

theorem Holding.mono (holding : Holding pending log clock) (later : clock ≤ now) : Holding pending log now := by
  refine ⟨?_, holding.consumed⟩
  intro pane held found
  obtain ⟨server, since, last, until_, old⟩ := holding.held pane held found
  exact ⟨server, since, last, until_, Int.le_trans old later⟩

theorem Refusing.mono (refusing : Refusing pending log clock) (later : clock ≤ now) : Refusing pending log now :=
  ⟨fun pane refused held found op => Int.lt_of_lt_of_le (refusing.refused pane refused held found op) later, refusing.obeyed⟩

theorem find_cons_of_not {entry : Entry} {wanted : Entry → Bool} (other : wanted entry = false) :
    (entry :: log).find? wanted = log.find? wanted := by
  rw [List.find?_cons, other]

theorem Holding.give {op by_ : Text} {server : Bool} (holding : Holding pending log now) :
    Holding (Function.update pending pane (some { op, by_, until_ := now + PENDING_MS }))
      (.authorized pane op server now :: log) now := by
  refine ⟨?_, holding.consumed.cons (by simp)⟩
  intro other held found
  simp only [Function.update_apply] at found
  split at found
  · next same =>
    cases found
    subst same
    refine ⟨server, now, ?_, rfl, Int.le_refl _⟩
    rw [List.find?_cons, settles, decide_eq_true rfl]
  · next apart =>
    obtain ⟨server, since, last, rest⟩ := holding.held other held found
    refine ⟨server, since, ?_, rest⟩
    rw [find_cons_of_not (by simpa [settles] using Ne.symm apart), last]

theorem Holding.hear {negated : Bool} (holding : Holding pending log clock) :
    Holding pending (.line pane negated :: log) clock := by
  refine ⟨?_, holding.consumed.cons (by simp)⟩
  intro other held found
  obtain ⟨server, since, last, rest⟩ := holding.held other held found
  exact ⟨server, since, by rw [find_cons_of_not rfl, last], rest⟩

theorem Refusing.give {op by_ : Text} {until_ : ℤ} {server : Bool} (refusing : Refusing pending log now)
    (word : op = promoteOp → server = false → log.find? (decides pane) ≠ some (.line pane true)) :
    Refusing (Function.update pending pane (some { op, by_, until_ })) (.authorized pane op server now :: log) now := by
  refine ⟨?_, refusing.obeyed.cons (by simp)⟩
  intro other refused held found promote
  have earlier : log.find? (decides other) = some (.line other true) := by
    rw [List.find?_cons] at refused
    split at refused
    · cases refused
    · exact refused
  simp only [Function.update_apply] at found
  split at found
  · next same =>
    subst same
    cases found
    cases server with
    | false => exact (word promote rfl earlier).elim
    | true => simp [decides, show op = promoteOp from promote] at refused
  · exact refusing.refused other earlier held found promote

theorem Refusing.hear (refusing : Refusing pending log now) {negated : Bool}
    (free : negated = true → ∀ held, pending pane = some held → held.op = promoteOp → held.until_ < now) :
    Refusing pending (.line pane negated :: log) now := by
  refine ⟨?_, refusing.obeyed.cons (by simp)⟩
  intro other refused held found promote
  by_cases same : pane = other
  · subst same
    simp only [List.find?_cons, decides, decide_true, Option.some.injEq, Entry.line.injEq, true_and] at refused
    exact free refused held found promote
  · rw [find_cons_of_not (by simpa [decides] using same)] at refused
    exact refusing.refused other refused held found promote

/-- What is known of the process and its file. -/
structure Grounded (deployment : Deployment) (grants : Grants) (clock : ℤ) : Prop where
  holding : Holding grants.pending grants.log clock
  stored : Stored deployment grants

def Refuses (grants : Grants) (clock : ℤ) : Prop := Refusing grants.pending grants.log clock

theorem Grounded.mono (grounded : Grounded deployment grants clock) (later : clock ≤ now) : Grounded deployment grants now :=
  ⟨grounded.holding.mono later, grounded.stored⟩

theorem save_grounded (holding : Holding grants.pending grants.log clock)
    (kept : grants.file ≠ none → deployment.stateFile = true ∧ deployment.signingSecret ≠ "") :
    Grounded deployment (saveState deployment grants now) clock := by
  refine ⟨?_, saveState_stored kept⟩
  rw [saveState_pending, saveState_log]
  exact holding

theorem save_refuses (refusing : Refusing grants.pending grants.log clock) :
    Refuses (saveState deployment grants now) clock := by
  rw [Refuses, saveState_pending, saveState_log]
  exact refusing

variable {text by_ line : Text} {only : Bool} {source : OperatorLineSource}

theorem Grounded.allow (grounded : Grounded deployment grants now) :
    Grounded deployment (allowPaneQueueCommand deployment pane text by_ only now grants) now := by
  unfold allowPaneQueueCommand
  split
  · exact grounded
  split
  · exact grounded
  · exact save_grounded grounded.holding.give grounded.stored.kept

theorem Refuses.allow (refuses : Refuses grants now) :
    Refuses (allowPaneQueueCommand deployment pane text by_ only now grants) now := by
  unfold allowPaneQueueCommand
  split
  · exact refuses
  split
  · exact refuses
  · exact save_refuses (refuses.give (by simp))

theorem Grounded.hear (grounded : Grounded deployment grants now) :
    Grounded deployment (noteOperatorPromoteLine deployment pane line source now grants) now := by
  unfold noteOperatorPromoteLine
  split
  · exact grounded
  split
  · exact save_grounded grounded.holding.hear grounded.stored.kept
  · exact save_grounded grounded.holding.hear.give grounded.stored.kept

/-- The operator refuses a promote the pane still holds. -/
def refusesHeld (pane : String) (line : Text) (now : ℤ) (grants : Grants) : Bool :=
  ((promoteLineVerdict line).bind id).isSome &&
    (grants.pending pane).any fun held => held.op = promoteOp && decide (now ≤ held.until_)

theorem Refuses.hear (refuses : Refuses grants now) (free : refusesHeld pane line now grants = false) :
    Refuses (noteOperatorPromoteLine deployment pane line source now grants) now := by
  unfold noteOperatorPromoteLine
  split
  · exact refuses
  next negation verdict =>
  split
  · refine save_refuses (Refusing.hear refuses ?_)
    intro _ held found promote
    simp only [refusesHeld, verdict, Option.bind_some, id, Option.isSome_some, Bool.true_and] at free
    rw [show grants.pending pane = some held from found, Option.any_some, promote] at free
    simpa using free
  · refine save_refuses (Refusing.give (Refusing.hear refuses (by simp)) ?_)
    intro _ _ refused
    simp [decides] at refused

theorem typeKeys_grounded (data : List Nat) (typed : Text) (grounded : Grounded deployment grants now) :
    Grounded deployment (typeKeys deployment pane now data typed grants) now := by
  induction data generalizing typed grants with
  | nil => exact ⟨grounded.holding, ⟨grounded.stored.file, grounded.stored.kept⟩⟩
  | cons code rest ih =>
    unfold typeKeys
    split
    · exact ih [] grounded.hear
    · exact ih _ grounded

/-- A line among the keystrokes refuses a promote the pane still holds. -/
def typedRefusesHeld (deployment : Deployment) (pane : String) (now : ℤ) : List Nat → Text → Grants → Bool
  | [], _, _ => false
  | code :: rest, typed, grants =>
    if code = 0x0D then
      refusesHeld pane typed now grants ||
        typedRefusesHeld deployment pane now rest [] (noteOperatorPromoteLine deployment pane typed .panePrompt now grants)
    else typedRefusesHeld deployment pane now rest (typedLine typed code) grants

theorem typeKeys_refuses (data : List Nat) (typed : Text) (refuses : Refuses grants now)
    (free : typedRefusesHeld deployment pane now data typed grants = false) :
    Refuses (typeKeys deployment pane now data typed grants) now := by
  induction data generalizing typed grants with
  | nil => exact refuses
  | cons code rest ih =>
    unfold typedRefusesHeld at free
    unfold typeKeys
    split
    · next submits =>
      rw [if_pos submits, Bool.or_eq_false_iff] at free
      exact ih [] (refuses.hear free.1) free.2
    · next types =>
      rw [if_neg types] at free
      exact ih _ refuses free

/-- A take that fails, or one that uses up the pane's grant. -/
inductive Taking (deployment : Deployment) (pane : String) (op : Text) (now : ℤ) (grants : Grants) : Grants → Prop where
  | nothing : Taking deployment pane op now grants grants
  | taken {held : Held} {promoteLines : BoundedMap PromoteLine 1000} {log : List Entry}
      (found : grants.pending pane = some held) (same : held.op = op) (inTime : now ≤ held.until_)
      (signed : log = grants.log ∨ log = .took pane op now :: grants.log) :
      Taking deployment pane op now grants
        { saveState deployment { grants with pending := Function.update grants.pending pane none, promoteLines } now with log }

theorem take_taking (op : Text) : Taking deployment pane op now grants (takePaneQueueGrant deployment pane op now grants).2 := by
  unfold takePaneQueueGrant
  split
  · exact .nothing
  next held found =>
  split
  · exact .nothing
  next good =>
  rw [not_or, not_not, Int.not_lt] at good
  dsimp only
  split
  · exact .taken found good.1 good.2 (.inl saveState_log)
  · exact .taken found good.1 good.2 (.inr (congrArg _ saveState_log))

theorem Grounded.take {after : Grants} {op : Text} (grounded : Grounded deployment grants now)
    (taking : Taking deployment pane op now grants after) : Grounded deployment after now := by
  cases taking with
  | nothing => exact grounded
  | @taken held promoteLines log found same inTime signed =>
    obtain ⟨server, since, last, until_, old⟩ := grounded.holding.held pane held found
    have stored : Stored deployment
        (saveState deployment { grants with pending := Function.update grants.pending pane none, promoteLines } now) :=
      saveState_stored grounded.stored.kept
    refine ⟨⟨?_, ?_⟩, ⟨stored.file, stored.kept⟩⟩
    · intro other left kept
      simp only [saveState_pending, Function.update_apply] at kept
      split at kept
      · cases kept
      next apart =>
      obtain ⟨server, since, last, rest⟩ := grounded.holding.held other left kept
      refine ⟨server, since, ?_, rest⟩
      rcases signed with rfl | rfl
      · exact last
      · rw [find_cons_of_not (by simpa [settles] using Ne.symm apart), last]
    · rcases signed with rfl | rfl
      · exact grounded.holding.consumed
      · rw [same] at last
        rw [until_] at inTime
        exact grounded.holding.consumed.take last old inTime

theorem Refuses.take {after : Grants} {op : Text} (refuses : Refuses grants now)
    (taking : Taking deployment pane op now grants after) : Refuses after now := by
  cases taking with
  | nothing => exact refuses
  | @taken held promoteLines log found same inTime signed =>
    have kept : ∀ other, log.find? (decides other) = grants.log.find? (decides other) := by
      intro other
      rcases signed with rfl | rfl
      · rfl
      · exact find_cons_of_not rfl
    constructor
    · intro other refused left still
      rw [kept] at refused
      simp only [saveState_pending, Function.update_apply] at still
      split at still
      · cases still
      · exact refuses.refused other refused left still
    · rcases signed with rfl | rfl
      · exact refuses.obeyed
      · refine refuses.obeyed.take fun promote refused => ?_
        have expired := refuses.refused pane refused held found (same.trans promote)
        omega

theorem loadState_pending (stored : Stored deployment grants) {held : Held} :
    (loadState deployment grants.file).pending pane = some held ↔
      ∃ saved mac, grants.file = some saved ∧ saved.pending pane = some (held, mac) := by
  unfold loadState
  split
  · next absent =>
    rw [absent]
    simp
  next saved file =>
  split
  · next unsaved =>
    obtain ⟨keeps, secret⟩ := stored.kept (by rw [file]; nofun)
    simp [keeps, secret] at unsaved
  · simp only [Option.map_eq_some_iff, Option.filter_eq_some_iff, decide_eq_true_eq]
    constructor
    · rintro ⟨⟨other, mac⟩, ⟨kept, -⟩, rfl⟩
      exact ⟨saved, mac, file, kept⟩
    · rintro ⟨other, mac, same, kept⟩
      rw [file, Option.some_inj] at same
      subst same
      exact ⟨(held, mac), ⟨kept, (stored.file saved file pane held mac kept).2⟩, rfl⟩

theorem loadState_file (file : Option SavedState) : (loadState deployment file).file = file := by
  unfold loadState
  split
  · rfl
  · split <;> rfl

theorem loaded_held (stored : Stored deployment grants) {held : Held}
    (found : (loadState deployment grants.file).pending pane = some held) : grants.pending pane = some held := by
  obtain ⟨saved, mac, file, kept⟩ := (loadState_pending stored).mp found
  exact (stored.file saved file pane held mac kept).1

theorem Grounded.restart (grounded : Grounded deployment grants clock) :
    Grounded deployment { loadState deployment grants.file with log := grants.log } clock := by
  refine ⟨⟨?_, grounded.holding.consumed⟩, ⟨?_, ?_⟩⟩
  · exact fun pane held found => grounded.holding.held pane held (loaded_held grounded.stored found)
  · intro saved same pane held mac found
    rw [loadState_file] at same
    exact ⟨(loadState_pending grounded.stored).mpr ⟨saved, mac, same, found⟩, (grounded.stored.file saved same pane held mac found).2⟩
  · rw [loadState_file]
    exact grounded.stored.kept

theorem Refuses.restart (refuses : Refuses grants clock) (stored : Stored deployment grants) :
    Refuses { loadState deployment grants.file with log := grants.log } clock :=
  ⟨fun pane refused held found => refuses.refused pane refused held (loaded_held stored found), refuses.obeyed⟩

end

def GrantEvent.now : GrantEvent → Option ℤ
  | .allows _ _ _ _ now => some now
  | .submits _ _ _ now => some now
  | .types _ _ now => some now
  | .takes _ _ now => some now
  | .restarts => none

/-- The grants, and the last time that was read. -/
structure Clocked where
  grants : Grants
  clock : ℤ

namespace Clocked

variable (deployment : Deployment)

def step (clocked : Clocked) (event : GrantEvent) : Clocked where
  grants := clocked.grants.step deployment event
  clock := event.now.getD clocked.clock

def Forward (clocked : Clocked) (event : GrantEvent) : Prop := clocked.clock ≤ event.now.getD clocked.clock

/-- No line that refuses a promote is submitted to a pane that still holds one. -/
def Unrefused (clocked : Clocked) : GrantEvent → Prop
  | .submits pane line _ now => refusesHeld pane line now clocked.grants = false
  | .types pane data now =>
    typedRefusesHeld deployment pane now data (clocked.grants.typedLines pane) clocked.grants = false
  | _ => True

instance (clocked : Clocked) (event : GrantEvent) : Decidable (clocked.Forward event) := inferInstanceAs (Decidable (_ ≤ _))

instance (clocked : Clocked) : (event : GrantEvent) → Decidable (clocked.Unrefused deployment event)
  | .submits _ _ _ _ => inferInstanceAs (Decidable (_ = false))
  | .types _ _ _ => inferInstanceAs (Decidable (_ = false))
  | .allows _ _ _ _ _ => inferInstanceAs (Decidable True)
  | .takes _ _ _ => inferInstanceAs (Decidable True)
  | .restarts => inferInstanceAs (Decidable True)

def run (events : List GrantEvent) (clock : ℤ) : Clocked := events.foldl (step deployment) ⟨{}, clock⟩

end Clocked

section

variable {deployment : Deployment} {clocked : Clocked} {event : GrantEvent}

theorem step_grounded (grounded : Grounded deployment clocked.grants clocked.clock) (forward : clocked.Forward event) :
    Grounded deployment (clocked.step deployment event).grants (clocked.step deployment event).clock := by
  cases event with
  | allows pane text by_ only now => exact (grounded.mono forward).allow
  | submits pane line source now => exact (grounded.mono forward).hear
  | types pane data now => exact typeKeys_grounded data _ (grounded.mono forward)
  | takes pane op now => exact (grounded.mono forward).take (take_taking op)
  | restarts => exact grounded.restart

theorem step_refuses (grounded : Grounded deployment clocked.grants clocked.clock) (refuses : Refuses clocked.grants clocked.clock)
    (forward : clocked.Forward event) (unrefused : clocked.Unrefused deployment event) :
    Refuses (clocked.step deployment event).grants (clocked.step deployment event).clock := by
  have later : Refuses clocked.grants (event.now.getD clocked.clock) := refuses.mono forward
  cases event with
  | allows pane text by_ only now => exact later.allow
  | submits pane line source now => exact later.hear unrefused
  | types pane data now => exact typeKeys_refuses data _ later unrefused
  | takes pane op now => exact later.take (take_taking op)
  | restarts => exact refuses.restart grounded.stored

theorem start_grounded (clock : ℤ) : Grounded deployment {} clock := by
  refine ⟨⟨nofun, ?_⟩, ⟨nofun, fun present => (present rfl).elim⟩⟩
  intro later pane op at_ earlier same
  cases later <;> cases same

theorem start_refuses (clock : ℤ) : Refuses {} clock := by
  refine ⟨nofun, ?_⟩
  intro later pane at_ earlier same
  cases later <;> cases same

end

/-- Every take uses up an authorization of its own, and, where no held promote is refused, none goes against a refusal. -/
theorem grants_followed (deployment : Deployment) (clock : ℤ) (events : List GrantEvent)
    (forward : AllowedRun Clocked.Forward (Clocked.step deployment) ⟨{}, clock⟩ events) :
    Consumed (Clocked.run deployment events clock).grants.log ∧
      (AllowedRun (Clocked.Unrefused deployment) (Clocked.step deployment) ⟨{}, clock⟩ events →
        Obeyed (Clocked.run deployment events clock).grants.log) := by
  unfold Clocked.run
  have grounded : Grounded deployment (⟨{}, clock⟩ : Clocked).grants (⟨{}, clock⟩ : Clocked).clock := start_grounded clock
  have refuses : Refuses (⟨{}, clock⟩ : Clocked).grants (⟨{}, clock⟩ : Clocked).clock := start_refuses clock
  generalize (⟨{}, clock⟩ : Clocked) = clocked at forward grounded refuses ⊢
  constructor
  · clear refuses
    induction events generalizing clocked with
    | nil => exact grounded.holding.consumed
    | cons event rest ih => exact ih _ forward.2 (step_grounded grounded forward.1)
  · intro unrefused
    induction events generalizing clocked with
    | nil => exact refuses.obeyed
    | cons event rest ih =>
      exact ih _ forward.2 (step_grounded grounded forward.1) (step_refuses grounded refuses forward.1 unrefused.1) unrefused.2

namespace Sample

def deployment : Deployment where
  signingSecret := "queue-grant-test-secret"
  stateFile := true
  heldMac := fun secret _ _ => secret

def typed (line : String) (now : ℤ) : GrantEvent := .types "pane:andy" ((line.toList.map Char.toNat) ++ [0x0D]) now

end Sample

/-- A promote the operator asks for after a refusal is taken, once, over a restart. -/
theorem grants_followed_restart :
    (Consumed (Clocked.run Sample.deployment [Sample.typed "don't promote yet" 0, Sample.typed "now promote" 1000, .restarts,
        .takes "pane:andy" promoteOp 2000] 0).grants.log ∧
      Obeyed (Clocked.run Sample.deployment [Sample.typed "don't promote yet" 0, Sample.typed "now promote" 1000, .restarts,
        .takes "pane:andy" promoteOp 2000] 0).grants.log) ∧
    (Clocked.run Sample.deployment [Sample.typed "don't promote yet" 0, Sample.typed "now promote" 1000, .restarts,
        .takes "pane:andy" promoteOp 2000] 0).grants.log.head? = some (.took "pane:andy" promoteOp 2000) :=
  ⟨⟨(grants_followed Sample.deployment 0 _ (by decide +kernel)).1,
    (grants_followed Sample.deployment 0 _ (by decide +kernel)).2 (by decide +kernel)⟩, by decide +kernel⟩

/-- The operator's refusal leaves the promote that is held, and it is taken. -/
theorem refused_promote_taken : AllowedRun Clocked.Forward (Clocked.step Sample.deployment) ⟨{}, 0⟩
      [Sample.typed "promote" 0, Sample.typed "wait, don't promote" 1000, .takes "pane:andy" promoteOp 2000] ∧
    ¬ Obeyed (Clocked.run Sample.deployment
      [Sample.typed "promote" 0, Sample.typed "wait, don't promote" 1000, .takes "pane:andy" promoteOp 2000] 0).grants.log := by
  refine ⟨by decide +kernel, ?_⟩
  intro obeyed
  exact obeyed [] _ _ _ rfl rfl

end SpaceApp.Releases
