import Mathlib.Algebra.Ring.Int.Defs
import Mathlib.Data.List.Chain
import Mathlib.Data.Set.Function

/-! Gmail history as operator actions (`mail-copilot/history.ts`), and when what was undone is no change.
-/

set_option autoImplicit false

namespace SpaceApp.Api.MailHistory

structure HistoryMessage where
  id : Option String
  threadId : Option String
  labelIds : List String

structure LabelEvent where
  message : Option HistoryMessage
  labelIds : List String

/-- A list that is missing is empty. -/
structure HistoryEntry where
  messagesAdded : List (Option HistoryMessage) := []
  messagesDeleted : List (Option HistoryMessage) := []
  labelsAdded : List LabelEvent := []
  labelsRemoved : List LabelEvent := []

/-- What `netThreadChanges` keeps of a thread; its sets are in the order of insertion. -/
structure NetChange where
  messageIds : List String := []
  added : List String := []
  removed : List String := []
  deleted : Bool := false
  sent : List String := []

structure ThreadChange extends NetChange where
  threadId : String

/-- `Set.add` -/
def insertSet (set : List String) (item : String) : List String := if item ∈ set then set else set ++ [item]

/-- `Set.delete` -/
def deleteSet (set : List String) (item : String) : List String := set.filter (· ≠ item)

abbrev Threads := List (String × NetChange)

/-- `threads.get(threadId)`, made where it is missing and changed in its place. -/
def setThread (threadId : String) (change : NetChange → NetChange) : Threads → Threads
  | [] => [(threadId, change {})]
  | entry :: rest => if entry.1 = threadId then (entry.1, change entry.2) :: rest else entry :: setThread threadId change rest

/-- The id and the thread of a message that has both. -/
def named (message : Option HistoryMessage) : Option (String × String) := do
  let message ← message
  let id ← message.id.filter (· ≠ "")
  let threadId ← message.threadId.filter (· ≠ "")
  return (id, threadId)

/-- `thread(message)`, and what is done to the entry. -/
def onThread (threads : Threads) (message : Option HistoryMessage) (change : String → NetChange → NetChange) : Threads :=
  match named message with
  | none => threads
  | some (id, threadId) =>
    setThread threadId (fun net => change id { net with messageIds := insertSet net.messageIds id }) threads

def noteSent (threads : Threads) (message : Option HistoryMessage) : Threads :=
  let labels := (message.map HistoryMessage.labelIds).getD []
  if "SENT" ∈ labels ∧ "DRAFT" ∉ labels then onThread threads message fun id net => { net with sent := net.sent ++ [id] }
  else threads

/-- `if (!removed.delete(label)) added.add(label)`, and the other way round. -/
def NetChange.mark (adds : Bool) (net : NetChange) (label : String) : NetChange :=
  if adds then
    if label ∈ net.removed then { net with removed := deleteSet net.removed label }
    else { net with added := insertSet net.added label }
  else if label ∈ net.added then { net with added := deleteSet net.added label }
  else { net with removed := insertSet net.removed label }

def noteLabels (adds : Bool) (threads : Threads) (event : LabelEvent) : Threads :=
  onThread threads event.message fun _ net => event.labelIds.foldl (NetChange.mark adds) net

/-- Gmail replaces a draft's message on every edit; a deleted draft is no deleted mail. -/
def noteDeleted (threads : Threads) (message : Option HistoryMessage) : Threads :=
  if "DRAFT" ∈ (message.map HistoryMessage.labelIds).getD [] then threads
  else onThread threads message fun _ net => { net with deleted := true }

def noteEntry (threads : Threads) (entry : HistoryEntry) : Threads :=
  let threads := entry.messagesAdded.foldl noteSent threads
  let threads := entry.labelsAdded.foldl (noteLabels true) threads
  let threads := entry.labelsRemoved.foldl (noteLabels false) threads
  entry.messagesDeleted.foldl noteDeleted threads

def netThreadChanges (entries : List HistoryEntry) : List ThreadChange :=
  (entries.foldl noteEntry []).map fun entry => { entry.2 with threadId := entry.1 }

inductive MailOperatorAction where
  | delete | trash | untrash | spam | notSpam | move | archive | unarchive | label | unlabel | star | unstar | reply

/-- `/^Label_\d+$/` -/
def isUserLabel (label : String) : Bool :=
  let digits := label.toList.drop 6
  label.toList.take 6 == "Label_".toList && !digits.isEmpty && digits.all Char.isDigit

def classifyThreadChange (change : ThreadChange) (ignoredLabels : String → Bool) :
    List (MailOperatorAction × List String) :=
  if change.deleted then [(.delete, [])]
  else if change.added.any ignoredLabels then []
  else
    let userAdded := change.added.filter isUserLabel
    let userRemoved := change.removed.filter isUserLabel
    let moved := fun (label : String) (there back : MailOperatorAction) => show List (MailOperatorAction × List String) from
      if label ∈ change.added then [(there, [])] else if label ∈ change.removed then [(back, [])] else []
    let leftInbox := decide ("INBOX" ∈ change.removed ∧ "TRASH" ∉ change.added ∧ "SPAM" ∉ change.added)
    moved "TRASH" .trash .untrash ++ moved "SPAM" .spam .notSpam ++
      (if leftInbox then if userAdded ≠ [] then [(.move, userAdded)] else [(.archive, [])]
        else if "INBOX" ∈ change.added ∧ "TRASH" ∉ change.removed ∧ "SPAM" ∉ change.removed then [(.unarchive, [])]
        else []) ++
      (if !leftInbox && !userAdded.isEmpty then [(.label, userAdded)] else []) ++
      (if userRemoved ≠ [] then [(.unlabel, userRemoved)] else []) ++
      moved "STARRED" .star .unstar ++ if change.sent ≠ [] then [(.reply, [])] else []

/-- One message for each time the event names the label, if it is of the thread. -/
def LabelEvent.of (event : LabelEvent) (adds : Bool) (threadId label : String) : List (String × Bool) :=
  match named event.message with
  | none => []
  | some (id, thread) => if thread = threadId then (event.labelIds.filter (· = label)).map fun _ => (id, adds) else []

def HistoryEntry.events (entry : HistoryEntry) (threadId label : String) : List (String × Bool) :=
  entry.labelsAdded.flatMap (fun event => event.of true threadId label) ++
    entry.labelsRemoved.flatMap fun event => event.of false threadId label

/-- The messages of the thread that got the label, and those that lost it, in order. -/
def labelEvents (entries : List HistoryEntry) (threadId label : String) : List (String × Bool) :=
  entries.flatMap fun entry => entry.events threadId label

def ofMessage (events : List (String × Bool)) (messageId : String) : List Bool :=
  (events.filter fun event => event.1 = messageId).map Prod.snd

def Alternates (entries : List HistoryEntry) : Prop :=
  ∀ threadId label messageId, (ofMessage (labelEvents entries threadId label) messageId).IsChain (· ≠ ·)

/-- The message ends with the label and began without it, or the other way round. -/
def Changed (gains : Bool) (events : List Bool) : Prop := events.head? = some gains ∧ events.getLast? = some gains

/-- Read from the last event back, the gains, or the losses, get two ahead before they fall one behind. -/
def twoAhead (gains : Bool) : ℕ → List Bool → Bool
  | _, [] => false
  | lead, event :: earlier =>
    if event = gains then decide (lead = 1) || twoAhead gains (lead + 1) earlier
    else match lead with
      | 0 => false
      | less + 1 => twoAhead gains less earlier

/-- A label is added to, or removed from, a thread only where it was to, or from, one of its messages; and a thread
whose messages all end as they began is no action. -/
structure UndoneIsNoChange (entries : List HistoryEntry) : Prop where
  added : ∀ change ∈ netThreadChanges entries, ∀ label ∈ change.added,
    ∃ messageId, Changed true (ofMessage (labelEvents entries change.threadId label) messageId)
  removed : ∀ change ∈ netThreadChanges entries, ∀ label ∈ change.removed,
    ∃ messageId, Changed false (ofMessage (labelEvents entries change.threadId label) messageId)
  unchanged : ∀ change ∈ netThreadChanges entries,
    (∀ label messageId gains, ¬ Changed gains (ofMessage (labelEvents entries change.threadId label) messageId)) →
      change.sent = [] → change.deleted = false → ∀ ignoredLabels, classifyThreadChange change ignoredLabels = []

def NetChange.standing (net : NetChange) (label : String) : Option Bool :=
  if label ∈ net.added then some true else if label ∈ net.removed then some false else none

/-- No label is in both sets. -/
def NetChange.Apart (net : NetChange) : Prop := ∀ label ∈ net.added, label ∉ net.removed

def stand (standing : Option Bool) (event : String × Bool) : Option Bool :=
  match standing with
  | none => some event.2
  | some side => if side = event.2 then some side else none

@[simp] theorem mem_insertSet {set : List String} {item other : String} :
    other ∈ insertSet set item ↔ other ∈ set ∨ other = item := by
  rw [insertSet]
  split
  · next there => exact ⟨.inl, fun either => either.elim id fun same => same ▸ there⟩
  · simp

@[simp] theorem mem_deleteSet {set : List String} {item other : String} :
    other ∈ deleteSet set item ↔ other ∈ set ∧ other ≠ item := by
  simp [deleteSet]

theorem mark_standing {net : NetChange} (apart : net.Apart) (adds : Bool) (label : String) (id : String) :
    (net.mark adds label).Apart ∧ ∀ other, (net.mark adds label).standing other =
      if other = label then stand (net.standing label) (id, adds) else net.standing other := by
  have here := apart label
  have parts : (∀ other, other ∈ (net.mark adds label).added ↔ if other = label then adds = true ∧ label ∉ net.removed
      else other ∈ net.added) ∧ ∀ other, other ∈ (net.mark adds label).removed ↔
        if other = label then adds = false ∧ label ∉ net.added else other ∈ net.removed := by
    rw [NetChange.mark]
    split <;> split <;> grind [mem_insertSet, mem_deleteSet]
  obtain ⟨added, removed⟩ := parts
  constructor
  · intro other there
    rw [added] at there
    have before := apart other
    split at there <;> grind
  · simp only [NetChange.standing, added, removed, stand]
    grind

theorem marks_standing (adds : Bool) (id : String) (labels : List String) {net : NetChange} (apart : net.Apart) :
    (labels.foldl (NetChange.mark adds) net).Apart ∧ ∀ label, (labels.foldl (NetChange.mark adds) net).standing label =
      ((labels.filter (· = label)).map fun _ => (id, adds)).foldl stand (net.standing label) := by
  induction labels generalizing net with
  | nil => exact ⟨apart, fun _ => rfl⟩
  | cons first rest ih =>
    obtain ⟨apart, marked⟩ := mark_standing apart adds first id
    obtain ⟨apart, later⟩ := ih apart
    refine ⟨apart, fun label => ?_⟩
    rw [List.foldl_cons, later, marked, List.filter_cons]
    by_cases here : first = label
    · simp [here]
    · simp [here, Ne.symm here]

def entryOf (threads : Threads) (threadId : String) : NetChange := (threads.lookup threadId).getD {}

theorem entryOf_cons (entry : String × NetChange) (rest : Threads) (other : String) :
    entryOf (entry :: rest) other = if other = entry.1 then entry.2 else entryOf rest other := by
  rw [entryOf, List.lookup_cons]
  by_cases same : other = entry.1
  · simp [same]
  · simp [same, beq_eq_false_iff_ne.mpr same, entryOf]

theorem entryOf_setThread (threads : Threads) (threadId other : String) (change : NetChange → NetChange) :
    entryOf (setThread threadId change threads) other =
      if other = threadId then change (entryOf threads threadId) else entryOf threads other := by
  induction threads with
  | nil =>
    rw [setThread, entryOf_cons]
    rfl
  | cons first rest ih =>
    rw [setThread]
    by_cases here : first.1 = threadId
    · rw [if_pos here, entryOf_cons, entryOf_cons, entryOf_cons, here, if_pos rfl]
      split <;> rfl
    · rw [if_neg here, entryOf_cons, ih, entryOf_cons, entryOf_cons, if_neg (Ne.symm here)]
      by_cases other_here : other = first.1
      · rw [if_pos other_here, if_pos other_here, if_neg (other_here ▸ here)]
      · rw [if_neg other_here, if_neg other_here]

/-- The ids of the threads that have an entry. -/
def keys (threads : Threads) : List String := threads.map Prod.fst

theorem setThread_keys (threads : Threads) (threadId key : String) (change : NetChange → NetChange) :
    key ∈ keys (setThread threadId change threads) ↔ key = threadId ∨ key ∈ keys threads := by
  induction threads with
  | nil => simp [setThread, keys]
  | cons first rest ih =>
    rw [setThread]
    by_cases here : first.1 = threadId
    · simp [keys, here]
    · rw [if_neg here]
      simp only [keys, List.map_cons, List.mem_cons] at ih ⊢
      rw [ih, or_left_comm]

theorem setThread_once {threads : Threads} (once : (keys threads).Nodup) (threadId : String)
    (change : NetChange → NetChange) : (keys (setThread threadId change threads)).Nodup := by
  induction threads with
  | nil => simp [setThread, keys]
  | cons first rest ih =>
    obtain ⟨fresh, once⟩ := List.nodup_cons.mp once
    rw [setThread]
    by_cases here : first.1 = threadId
    · rw [if_pos here]
      exact List.nodup_cons.mpr ⟨fresh, once⟩
    · rw [if_neg here]
      refine List.nodup_cons.mpr ⟨?_, ih once⟩
      intro there
      rcases (setThread_keys rest threadId first.1 change).mp there with same | later
      · exact here same
      · exact fresh later

theorem entryOf_of_mem {threads : Threads} (once : (keys threads).Nodup) {entry : String × NetChange}
    (member : entry ∈ threads) : entryOf threads entry.1 = entry.2 := by
  induction threads with
  | nil => cases member
  | cons first rest ih =>
    simp only [keys, List.map_cons, List.nodup_cons] at once
    rw [entryOf_cons]
    rcases List.mem_cons.mp member with rfl | later
    · rw [if_pos rfl]
    · rw [if_neg, ih once.2 later]
      rintro same
      exact once.1 (List.mem_map.mpr ⟨entry, later, same⟩)

theorem mem_of_entryOf {threads : Threads} {threadId : String} (changed : entryOf threads threadId ≠ {}) :
    (threadId, entryOf threads threadId) ∈ threads := by
  induction threads with
  | nil => exact absurd rfl changed
  | cons first rest ih =>
    rw [entryOf_cons] at changed ⊢
    split at changed
    · next here => simp [here]
    · next other =>
      rw [if_neg other]
      exact List.mem_cons_of_mem _ (ih changed)

/-- The entries stand as these events have left them. -/
structure Follows (threads : Threads) (events : String → String → List (String × Bool)) : Prop where
  once : (keys threads).Nodup
  apart : ∀ threadId, (entryOf threads threadId).Apart
  stands : ∀ threadId label, (entryOf threads threadId).standing label = (events threadId label).foldl stand none

theorem Follows.onThread {threads : Threads} {events : String → String → List (String × Bool)}
    (follows : Follows threads events) (message : Option HistoryMessage) (change : String → NetChange → NetChange)
    (more : String → String → List (String × Bool))
    (noted : ∀ id, ∀ net : NetChange, net.Apart → (change id net).Apart ∧ ∀ label, (change id net).standing label = (more id label).foldl stand (net.standing label)) :
    Follows (onThread threads message change) fun threadId label => events threadId label ++
      match named message with
      | none => []
      | some (id, thread) => if thread = threadId then more id label else [] := by
  rw [MailHistory.onThread]
  cases found : named message with
  | none => simpa using follows
  | some pair =>
    obtain ⟨id, thread⟩ := pair
    have marked := noted id { entryOf threads thread with
      messageIds := insertSet (entryOf threads thread).messageIds id } (follows.apart thread)
    constructor
    · exact setThread_once follows.once thread _
    · intro threadId
      rw [entryOf_setThread]
      split
      · exact marked.1
      · exact follows.apart threadId
    · intro threadId label
      rw [entryOf_setThread, List.foldl_append, ← follows.stands]
      by_cases here : threadId = thread
      · subst here
        simp only [if_true]
        exact marked.2 label
      · simp [here, Ne.symm here]

theorem Follows.kept {threads : Threads} {events : String → String → List (String × Bool)}
    (follows : Follows threads events) (message : Option HistoryMessage) (change : String → NetChange → NetChange)
    (same : ∀ id net, (change id net).added = net.added ∧ (change id net).removed = net.removed) :
    Follows (MailHistory.onThread threads message change) events := by
  have after := follows.onThread message change (fun _ _ => []) fun id net apart => by
    refine ⟨?_, fun label => ?_⟩
    · rw [NetChange.Apart, (same id net).1, (same id net).2]
      exact apart
    · simp only [NetChange.standing, (same id net).1, (same id net).2, List.foldl_nil]
  have unchanged : (fun threadId label => events threadId label ++
      match named message with
      | none => []
      | some (_, thread) => if thread = threadId then ([] : List (String × Bool)) else []) = events := by
    funext threadId label
    cases named message <;> simp
  rwa [unchanged] at after

theorem Follows.noteLabels {threads : Threads} {events : String → String → List (String × Bool)}
    (follows : Follows threads events) (adds : Bool) (list : List LabelEvent) :
    Follows (list.foldl (noteLabels adds) threads) fun threadId label =>
      events threadId label ++ list.flatMap fun event => event.of adds threadId label := by
  induction list generalizing threads events with
  | nil => simpa using follows
  | cons event rest ih =>
    have once := follows.onThread event.message (fun _ net => event.labelIds.foldl (NetChange.mark adds) net)
      (fun id label => (event.labelIds.filter (· = label)).map fun _ => (id, adds))
      fun id net apart => marks_standing adds id event.labelIds apart
    simp only [List.foldl_cons, List.flatMap_cons, ← List.append_assoc]
    exact ih once

theorem Follows.noteEntry {threads : Threads} {events : String → String → List (String × Bool)}
    (follows : Follows threads events) (entry : HistoryEntry) :
    Follows (noteEntry threads entry) fun threadId label => events threadId label ++ entry.events threadId label := by
  have sent : Follows (entry.messagesAdded.foldl noteSent threads) events := by
    generalize entry.messagesAdded = messages
    induction messages generalizing threads with
    | nil => exact follows
    | cons message rest ih =>
      apply ih
      rw [noteSent]
      split
      · exact follows.kept message _ fun _ _ => ⟨rfl, rfl⟩
      · exact follows
  have labels := (sent.noteLabels true entry.labelsAdded).noteLabels false entry.labelsRemoved
  simp only [List.append_assoc] at labels
  rw [MailHistory.noteEntry]
  generalize entry.messagesDeleted = messages
  generalize List.foldl _ _ entry.labelsRemoved = noted at labels ⊢
  induction messages generalizing noted with
  | nil => exact labels
  | cons message rest ih =>
    apply ih
    rw [noteDeleted]
    split
    · exact labels
    · exact labels.kept message _ fun _ _ => ⟨rfl, rfl⟩

theorem netThreads_follow (entries : List HistoryEntry) : Follows (entries.foldl noteEntry []) (labelEvents entries) := by
  have general : ∀ threads events, Follows threads events → Follows (entries.foldl noteEntry threads)
      fun threadId label => events threadId label ++ labelEvents entries threadId label := by
    induction entries with
    | nil => intro threads events follows; simpa [labelEvents] using follows
    | cons entry rest ih =>
      intro threads events follows
      simp only [List.foldl_cons, labelEvents, List.flatMap_cons, ← List.append_assoc]
      exact ih _ _ (follows.noteEntry entry)
  have none_yet : Follows [] fun _ _ => [] := by
    refine ⟨List.nodup_nil, fun _ label there => ?_, fun _ _ => rfl⟩
    simp [entryOf] at there
  simpa using general [] _ none_yet

/-- How far the gains, or the losses, are ahead. -/
def balance (gains : Bool) (events : List Bool) : ℤ := (events.map fun event => if event = gains then 1 else -1).sum

/-- As `twoAhead`; with all events read, one ahead is enough. -/
def ahead (gains : Bool) : ℕ → List Bool → Bool
  | lead, [] => decide (lead = 1)
  | lead, event :: earlier =>
    if event = gains then decide (lead = 1) || ahead gains (lead + 1) earlier
    else match lead with
      | 0 => false
      | less + 1 => ahead gains less earlier

def standBy (standing : Option Bool) (event : Bool) : Option Bool := stand standing ("", event)

theorem standing_ahead (gains : Bool) (events : List Bool) :
    (events.reverse.foldl standBy none = some gains ↔ ahead gains 0 events = true) ∧
      (events.reverse.foldl standBy none ≠ some !gains ↔ ahead gains 1 events = true) := by
  -- the induction reads the events from the last one back
  induction events with
  | nil => simp [ahead]
  | cons event earlier ih =>
    rw [List.reverse_cons, List.foldl_append, List.foldl_cons, List.foldl_nil]
    generalize earlier.reverse.foldl standBy none = before at ih
    rw [ahead, ahead]
    by_cases same : event = gains
    · subst same
      cases before with
      | none => simp_all [standBy, stand]
      | some side => cases side <;> cases event <;> simp_all [standBy, stand]
    · obtain rfl : event = !gains := by cases event <;> cases gains <;> simp_all
      cases before with
      | none => simp_all [standBy, stand]
      | some side => cases side <;> cases gains <;> simp_all [standBy, stand]

theorem twoAhead_ahead {gains : Bool} {lead : ℕ} {events : List Bool} (two : twoAhead gains lead events = true) :
    ahead gains lead events = true := by
  induction events generalizing lead with
  | nil => cases two
  | cons event earlier ih =>
    unfold twoAhead at two
    unfold ahead
    split at two
    · next same =>
      rw [if_pos same]
      rw [Bool.or_eq_true] at two ⊢
      exact two.imp_right ih
    · next other =>
      rw [if_neg other]
      cases lead with
      | zero => cases two
      | succ less => exact ih two

theorem ahead_cases {gains : Bool} {lead : ℕ} {events : List Bool} (leads : ahead gains lead events = true) :
    twoAhead gains lead events = true ∨ lead + balance gains events = 1 := by
  induction events generalizing lead with
  | nil =>
    rw [ahead, decide_eq_true_iff] at leads
    exact .inr (by simp [leads, balance])
  | cons event earlier ih =>
    unfold ahead at leads
    unfold twoAhead
    rw [balance, List.map_cons, List.sum_cons, ← balance]
    split at leads
    · next same =>
      rw [if_pos same, if_pos same]
      rcases Bool.or_eq_true_iff.mp leads with two | later
      · exact .inl (by simp [two])
      · refine (ih later).imp (fun two => by simp [two]) fun total => ?_
        omega
    · next other =>
      rw [if_neg other, if_neg other]
      cases lead with
      | zero => cases leads
      | succ less =>
        refine (ih leads).imp id fun total => ?_
        omega

/-- Where the events alternate, their balance is told by the first and the last one. -/
theorem balance_alternating (gains first : Bool) (rest : List Bool) (alternates : (first :: rest).IsChain (· ≠ ·)) :
    balance gains (first :: rest) = (if first = gains then 1 else 0) +
      (if (first :: rest).getLast? = some gains then 1 else 0) - 1 := by
  induction rest generalizing first with
  | nil => cases first <;> cases gains <;> rfl
  | cons second rest ih =>
    obtain ⟨differ, later⟩ := List.isChain_cons_cons.mp alternates
    rw [balance, List.map_cons, List.sum_cons, ← balance, ih second later, List.getLast?_cons_cons]
    cases first <;> cases second <;> cases gains <;> simp_all <;> omega

theorem balance_unchanged {gains : Bool} {events : List Bool} (alternates : events.IsChain (· ≠ ·))
    (unchanged : ¬ Changed gains events) : balance gains events ≤ 0 := by
  cases events with
  | nil => rfl
  | cons first rest =>
    rw [balance_alternating gains first rest alternates]
    by_cases begins : first = gains
    · rw [if_pos begins, if_neg fun ends => unchanged ⟨congrArg some begins, ends⟩]
      rfl
    · rw [if_neg begins]
      split <;> omega

theorem balance_split (gains : Bool) (events : List (String × Bool)) (own : String × Bool → Bool) :
    balance gains (events.map Prod.snd) = balance gains ((events.filter own).map Prod.snd) +
      balance gains ((events.filter fun event => !own event).map Prod.snd) := by
  induction events with
  | nil => rfl
  | cons first rest ih =>
    simp only [balance, List.map_map] at ih ⊢
    cases here : own first <;> simp [here] <;> omega

theorem balance_messages (gains : Bool) (events : List (String × Bool))
    (each : ∀ messageId, balance gains (ofMessage events messageId) ≤ 0) : balance gains (events.map Prod.snd) ≤ 0 := by
  induction length : events.length using Nat.strong_induction_on generalizing events with
  | _ length ih =>
  cases events with
  | nil => rfl
  | cons first rest =>
    -- the first event's message, and all the others
    have whole := balance_split gains (first :: rest) fun event => event.1 = first.1
    have own := each first.1
    have others := ih _ ?_ ((first :: rest).filter fun event => !decide (event.1 = first.1)) ?_ rfl
    · rw [ofMessage] at own
      omega
    · rw [List.filter_cons, if_neg (by simp), ← length]
      exact Nat.lt_succ_of_le (List.length_filter_le _ _)
    · intro messageId
      rw [ofMessage, List.filter_filter]
      by_cases same : messageId = first.1
      · rw [List.filter_eq_nil_iff.mpr (by simp +contextual [same])]
        rfl
      · rw [List.filter_congr (q := fun event => decide (event.1 = messageId)) ?_]
        · exact each messageId
        · intro event _
          by_cases here : event.1 = messageId <;> simp [here, same]

theorem map_stand (events : List (String × Bool)) (standing : Option Bool) :
    events.foldl stand standing = (events.map Prod.snd).foldl standBy standing := by
  rw [List.foldl_map]
  rfl

theorem standing_iff (gains : Bool) {entries : List HistoryEntry} {threads : Threads}
    (follows : Follows threads (labelEvents entries)) (threadId label : String) :
    (entryOf threads threadId).standing label = some gains ↔
      ahead gains 0 ((labelEvents entries threadId label).map Prod.snd).reverse = true := by
  rw [follows.stands, map_stand, ← (standing_ahead gains _).1, List.reverse_reverse]

theorem mem_of_standing {net : NetChange} {label : String} {gains : Bool} (apart : net.Apart) :
    net.standing label = some gains ↔ label ∈ if gains then net.added else net.removed := by
  have never := apart label
  rw [NetChange.standing]
  cases gains <;> grind

theorem undone_added {entries : List HistoryEntry} (gains : Bool) (threadId label : String)
    (alternates : ∀ messageId, (ofMessage (labelEvents entries threadId label) messageId).IsChain (· ≠ ·))
    (whole : ahead gains 0 ((labelEvents entries threadId label).map Prod.snd).reverse = true)
    (undone : ∀ messageId, ¬ Changed gains (ofMessage (labelEvents entries threadId label) messageId)) :
    twoAhead gains 0 ((labelEvents entries threadId label).map Prod.snd).reverse = true := by
  rcases ahead_cases whole with two | total
  · exact two
  · have none_gained := balance_messages gains _ fun messageId => balance_unchanged (alternates messageId) (undone messageId)
    rw [balance, List.map_reverse, List.sum_reverse, ← balance] at total
    omega

/-- An undone change is none, exactly when no label, read from its last event back, gets two ahead in a thread none of
whose messages got it, or lost it. -/
theorem undoneIsNoChange_iff (entries : List HistoryEntry) (alternates : Alternates entries) :
    UndoneIsNoChange entries ↔ ∀ threadId label gains,
      twoAhead gains 0 ((labelEvents entries threadId label).map Prod.snd).reverse = true →
        ∃ messageId, Changed gains (ofMessage (labelEvents entries threadId label) messageId) := by
  have follows := netThreads_follow entries
  have standing := fun gains => standing_iff gains follows
  constructor
  · intro honest threadId label gains two
    have member := (standing gains threadId label).mpr (twoAhead_ahead two)
    rw [mem_of_standing (follows.apart threadId)] at member
    have entered := @mem_of_entryOf (entries.foldl noteEntry []) threadId (by
      intro fresh
      rw [fresh] at member
      cases gains <;> cases member)
    have listed : { entryOf (entries.foldl noteEntry []) threadId with threadId := threadId } ∈ netThreadChanges entries :=
      List.mem_map.mpr ⟨_, entered, rfl⟩
    cases gains with
    | true => exact honest.added _ listed label member
    | false => exact honest.removed _ listed label member
  · intro fair
    have changed : ∀ gains : Bool, ∀ change ∈ netThreadChanges entries, ∀ label ∈ (if gains then change.added else change.removed),
        ∃ messageId, Changed gains (ofMessage (labelEvents entries change.threadId label) messageId) := by
      intro gains change listed label member
      obtain ⟨entry, entered, rfl⟩ := List.mem_map.mp listed
      rw [← entryOf_of_mem follows.once entered] at member
      have whole := (standing gains entry.1 label).mp ((mem_of_standing (follows.apart entry.1)).mpr member)
      by_contra undone
      exact undone (fair entry.1 label gains
        (undone_added gains entry.1 label (alternates entry.1 label) whole (not_exists.mp undone)))
    refine ⟨changed true, changed false, ?_⟩
    intro change listed same sent deleted ignoredLabels
    have empty : ∀ gains : Bool, (if gains then change.added else change.removed) = [] := by
      intro gains
      rw [List.eq_nil_iff_forall_not_mem]
      intro label member
      obtain ⟨messageId, gained⟩ := changed gains change listed label member
      exact same label messageId gains gained
    have added : change.added = [] := empty true
    have removed : change.removed = [] := empty false
    simp [classifyThreadChange, deleted, sent, added, removed]

/-- Both messages of a conversation leave the inbox, and come back. -/
def archivedAndBack : List HistoryEntry :=
  let inbox := ["a", "b"].map fun id => (⟨some ⟨some id, some "t", []⟩, ["INBOX"]⟩ : LabelEvent)
  [{ labelsRemoved := inbox }, { labelsAdded := inbox }]

theorem archivedAndBack_events (threadId label : String) : labelEvents archivedAndBack threadId label =
    if threadId = "t" ∧ label = "INBOX" then [("a", false), ("b", false), ("a", true), ("b", true)] else [] := by
  have a : named (some ⟨some "a", some "t", []⟩) = some ("a", "t") := rfl
  have b : named (some ⟨some "b", some "t", []⟩) = some ("b", "t") := rfl
  by_cases here : threadId = "t" ∧ label = "INBOX"
  · obtain ⟨rfl, rfl⟩ := here
    rfl
  · rw [if_neg here]
    simp only [labelEvents, archivedAndBack, HistoryEntry.events, LabelEvent.of, List.map_cons, List.map_nil,
      List.flatMap_cons, List.flatMap_nil, a, b]
    by_cases thread : "t" = threadId
    · have other : ¬ "INBOX" = label := fun inbox => here ⟨thread.symm, inbox.symm⟩
      simp [thread, other]
    · simp [thread]

theorem archivedAndBack_message (threadId label messageId : String) :
    ofMessage (labelEvents archivedAndBack threadId label) messageId = [] ∨
      ofMessage (labelEvents archivedAndBack threadId label) messageId = [false, true] := by
  rw [archivedAndBack_events]
  by_cases here : threadId = "t" ∧ label = "INBOX"
  · rw [if_pos here]
    by_cases a : "a" = messageId
    · subst a
      exact .inr rfl
    · by_cases b : "b" = messageId
      · subst b
        exact .inr rfl
      · exact .inl (by simp [ofMessage, a, b])
  · exact .inl (by simp [here, ofMessage])

theorem archivedAndBack_alternates : Alternates archivedAndBack := by
  intro threadId label messageId
  rcases archivedAndBack_message threadId label messageId with none_ | both
  · simp [none_]
  · simp [both]

theorem archivedAndBack_unchanged (threadId label messageId : String) (gains : Bool) :
    ¬ Changed gains (ofMessage (labelEvents archivedAndBack threadId label) messageId) := by
  rcases archivedAndBack_message threadId label messageId with none_ | both
  · simp [none_, Changed]
  · cases gains <;> simp [both, Changed]

theorem undoneIsNoChange_iff_archivedAndBack : ¬ UndoneIsNoChange archivedAndBack := by
  rw [undoneIsNoChange_iff archivedAndBack archivedAndBack_alternates]
  intro fair
  obtain ⟨messageId, gained⟩ := fair "t" "INBOX" true (by rw [archivedAndBack_events]; rfl)
  exact archivedAndBack_unchanged _ _ messageId true gained

/-- The conversation counts as taken out of the archive. -/
theorem restored_conversation_unarchived : ¬ ∀ entries, Alternates entries → UndoneIsNoChange entries := by
  intro claimed
  have honest := claimed archivedAndBack archivedAndBack_alternates
  have nothing := honest.unchanged _ (List.mem_singleton.mpr rfl) (archivedAndBack_unchanged _) rfl rfl fun _ => false
  exact absurd (congrArg List.length nothing) (by decide)

end SpaceApp.Api.MailHistory
