import Mathlib.Data.List.Nodup
import SpaceApp.AppServer.ThreadScenes

/-! The guard of a settings update: the primary's selections and the thread they leave in front of the user. -/

set_option autoImplicit false

namespace SpaceApp.AppServer.Routing

open SpaceApp.Foundation
open Multiplexer (numberId threadOf answeredThread ephemeral)

/-- The thread of a selection that counts: answered as the newest, without an error, and not with a side thread. -/
def Selection.chosen (selection : Selection) : Option (Option JsString) :=
  match selection.answer with
  | some message =>
    if selection.newest && !message.error.any truthy && !ephemeral message then some (stringField (answeredThread message) "id") else none
  | none => none

def chosenThread (selections : List Selection) : Option JsString := (selections.filterMap Selection.chosen).getLast?.join

def awaitsAnswer (selections : List Selection) : Bool := selections.getLast?.any fun selection => selection.answer.isNone

/-- The update names the thread of the latest selection that counts, and no newer one is pending. -/
def Guards (update : Guarded) : Prop :=
  ∃ threadId, get? (asRecord update.message.params) "threadId" = some (.string threadId) ∧
    chosenThread update.selections = some threadId ∧ awaitsAnswer update.selections = false

structure Guarding (scene : Scene) : Prop where
  linked : scene.own = scene.settings.map fun update => some update.threadId
  guards : ∀ update ∈ scene.guarded, Guards update
  named : scene.threads.currentThreadId ≠ some []
  generation : scene.threads.primarySelectionGeneration = scene.selections.length
  serials : (scene.selections.map (·.serial)).Nodup
  below : ∀ selection ∈ scene.selections, selection.serial < scene.requestCount
  bounded : ∀ entry ∈ scene.pending, ∀ serial, entry.2.serial = some serial → serial < scene.requestCount
  keyed : ∀ first ∈ scene.pending, ∀ second ∈ scene.pending, ∀ serial, first.2.serial = some serial → second.2.serial = some serial →
    first.1 = second.1
  chosen : scene.upstreamOpen = true → scene.threads.primaryThreadId = chosenThread scene.selections
  awaiting : scene.upstreamOpen = true → scene.threads.primarySelectionPending = awaitsAnswer scene.selections
  selecting : scene.upstreamOpen = true → ∀ entry ∈ scene.pending, selectingMethods.contains entry.2.method = true →
    ∃ clientId index selection, entry.2.clientId = some clientId ∧ scene.primaryClientId = some clientId ∧
      entry.2.primarySelectionGeneration = some (index + 1) ∧ scene.selections[index]? = some selection ∧
      entry.2.serial = some selection.serial ∧ selection.answer = none

section

variable {scene : Scene}

theorem stringField_named (record : Option (JsonObject JsNumber)) (name : String) : stringField record name ≠ some [] := by
  unfold stringField
  cases get? record name with
  | none => nofun
  | some value =>
    cases value with
    | string text =>
      cases text with
      | nil => nofun
      | cons unit rest => exact fun same => by cases same
    | _ => nofun

theorem or_named {first second : Option JsString} (left : first ≠ some []) (right : second ≠ some []) : first.or second ≠ some [] := by
  cases first with
  | none => exact right
  | some text => exact left

section
variable (guarding : Guarding scene)

include guarding

theorem Guarding.retime (threads : Threads) (primary : threads.primaryThreadId = scene.threads.primaryThreadId)
    (generation : threads.primarySelectionGeneration = scene.threads.primarySelectionGeneration)
    (selecting : threads.primarySelectionPending = scene.threads.primarySelectionPending) (named : threads.currentThreadId ≠ some [])
    (addressed : Option JsString) (running : List JsString) : Guarding { scene with threads, addressed, running } :=
  { guarding with
      named := named, generation := generation.trans guarding.generation,
      chosen := fun isOpen => primary.trans (guarding.chosen isOpen),
      awaiting := fun isOpen => selecting.trans (guarding.awaiting isOpen) }

theorem Guarding.drop (keep : JsonRpcId × PendingRequest → Bool) :
    Guarding { scene with pending := scene.pending.filter keep } :=
  { guarding with
      bounded := fun entry among => guarding.bounded entry (List.mem_of_mem_filter among),
      keyed := fun first among second also => guarding.keyed first (List.mem_of_mem_filter among) second (List.mem_of_mem_filter also),
      selecting := fun isOpen entry among => guarding.selecting isOpen entry (List.mem_of_mem_filter among) }

theorem Guarding.promote (none_ : scene.primaryClientId = none) (clientId : Nat) :
    Guarding { scene with primaryClientId := some clientId } := by
  refine { guarding with selecting := fun isOpen entry among isSelecting => ?_ }
  obtain ⟨_, _, _, -, primary, -⟩ := guarding.selecting isOpen entry among isSelecting
  rw [none_] at primary
  cases primary

theorem Guarding.retire {clientId : Nat} (primary : scene.primaryClientId = some clientId) : Guarding { scene with
      primaryClientId := none
      pending := scene.pending.filter fun entry => entry.2.clientId ≠ some clientId } := by
  have dropped := guarding.drop fun entry => entry.2.clientId ≠ some clientId
  refine { dropped with selecting := fun isOpen entry among isSelecting => ?_ }
  obtain ⟨owner, _, _, isOwner, isPrimary, -⟩ := dropped.selecting isOpen entry among isSelecting
  have same := Option.some.inj (primary.symm.trans isPrimary)
  rw [← same] at isOwner
  exact absurd isOwner (of_decide_eq_true (List.mem_filter.mp among).2)

theorem Guarding.fail (primaryClientId : Option Nat) : Guarding { scene with upstreamOpen := false, primaryClientId } :=
  { guarding with chosen := nofun, awaiting := nofun, selecting := nofun }

end

theorem Guarding.entries (guarding : Guarding scene) (key : JsonRpcId) (request : PendingRequest) {count : Nat}
    (grows : scene.requestCount ≤ count)
    (serial : request.serial = none ∨ request.serial = some scene.requestCount ∧ scene.requestCount < count) :
    let entries := (key, request) :: scene.pending.filter fun entry => entry.1 ≠ key
    (∀ entry ∈ entries, ∀ serial, entry.2.serial = some serial → serial < count) ∧
    ∀ first ∈ entries, ∀ second ∈ entries, ∀ serial, first.2.serial = some serial → second.2.serial = some serial →
      first.1 = second.1 := by
  have dropped := guarding.drop fun entry => entry.1 ≠ key
  have other {entry : JsonRpcId × PendingRequest} (among : entry ∈ scene.pending.filter fun entry => entry.1 ≠ key) {number : Nat}
      (first : request.serial = some number) (second : entry.2.serial = some number) : False := by
    have bound := dropped.bounded entry among number second
    rcases serial with none_ | ⟨some_, -⟩
    · rw [none_] at first
      cases first
    · have same := Option.some.inj (some_.symm.trans first)
      exact Nat.lt_irrefl _ (same ▸ bound)
  refine ⟨fun entry among number isSerial => ?_, fun first among second also number isFirst isSecond => ?_⟩
  · rcases List.mem_cons.mp among with rfl | before
    · rcases serial with none_ | ⟨some_, less⟩
      · rw [none_] at isSerial
        cases isSerial
      · rw [← Option.some.inj (some_.symm.trans isSerial)]
        exact less
    · exact Nat.lt_of_lt_of_le (dropped.bounded entry before number isSerial) grows
  · rcases List.mem_cons.mp among with rfl | before <;> rcases List.mem_cons.mp also with rfl | before_
    · rfl
    · exact (other before_ isFirst isSecond).elim
    · exact (other before isSecond isFirst).elim
    · exact dropped.keyed first before second before_ number isFirst isSecond

theorem Guarding.push (guarding : Guarding scene) (key : JsonRpcId) (request : PendingRequest)
    (plain : selectingMethods.contains request.method = false) (count : Nat) (grows : scene.requestCount ≤ count)
    (serial : request.serial = none ∨ request.serial = some scene.requestCount ∧ scene.requestCount < count) :
    Guarding { scene with
      requestCount := count
      pending := (key, request) :: scene.pending.filter fun entry => entry.1 ≠ key } := by
  have dropped := guarding.drop fun entry => entry.1 ≠ key
  obtain ⟨bounded, keyed⟩ := guarding.entries key request grows serial
  refine { guarding with
      below := fun selection among => Nat.lt_of_lt_of_le (guarding.below selection among) grows, bounded := bounded,
      keyed := keyed, selecting := fun isOpen entry among isSelecting => ?_ }
  rcases List.mem_cons.mp among with rfl | before
  · rw [plain] at isSelecting
    cases isSelecting
  · exact dropped.selecting isOpen entry before isSelecting

theorem chosenThread_begun (selections : List Selection) (serial : Nat) :
    chosenThread (selections ++ [{ serial := serial }]) = chosenThread selections := by
  unfold chosenThread
  rw [List.filterMap_append]
  exact congrArg _ (congrArg _ (List.append_nil _))

theorem Guarding.select (guarding : Guarding scene) (key : JsonRpcId) (request : PendingRequest) {clientId : Nat}
    (client : request.clientId = some clientId) (primary : scene.primaryClientId = some clientId)
    (generation : request.primarySelectionGeneration = some (scene.selections.length + 1))
    (serial : request.serial = some scene.requestCount) : Guarding { scene with
      requestCount := scene.requestCount + 1
      pending := (key, request) :: scene.pending.filter fun entry => entry.1 ≠ key
      selections := scene.selections ++ [{ serial := scene.requestCount }]
      threads := { scene.threads with
        primarySelectionGeneration := scene.threads.primarySelectionGeneration + 1
        primarySelectionPending := true } } := by
  have dropped := guarding.drop fun entry => entry.1 ≠ key
  obtain ⟨bounded, keyed⟩ := guarding.entries key request (Nat.le_succ _) (.inr ⟨serial, Nat.lt_succ_self _⟩)
  refine ⟨guarding.linked, guarding.guards, guarding.named, ?_, ?_, fun selection among => ?_, bounded, keyed, fun isOpen => ?_,
    fun _ => ?_, fun isOpen entry among isSelecting => ?_⟩
  · rw [List.length_append, List.length_singleton, guarding.generation]
  · rw [List.map_append, List.nodup_append]
    refine ⟨guarding.serials, List.nodup_singleton _, fun number among other last same => ?_⟩
    obtain ⟨selection, member, rfl⟩ := List.mem_map.mp among
    have below := guarding.below selection member
    rw [same, List.mem_singleton.mp last] at below
    exact Nat.lt_irrefl _ below
  · rcases List.mem_append.mp among with before | last
    · exact Nat.lt_succ_of_lt (guarding.below selection before)
    · rw [List.mem_singleton.mp last]
      exact Nat.lt_succ_self _
  · exact (guarding.chosen isOpen).trans (chosenThread_begun _ _).symm
  · simp [awaitsAnswer]
  · rcases List.mem_cons.mp among with rfl | before
    · exact ⟨clientId, scene.selections.length, { serial := scene.requestCount }, client, primary, generation,
        List.getElem?_concat_length, serial, rfl⟩
    · obtain ⟨owner, index, selection, isOwner, isPrimary, isGeneration, found, isSerial, unanswered⟩ :=
        dropped.selecting isOpen entry before isSelecting
      refine ⟨owner, index, selection, isOwner, isPrimary, isGeneration, ?_, isSerial, unanswered⟩
      rw [List.getElem?_append_left (List.getElem?_eq_some_iff.mp found).1]
      exact found

theorem Guarding.note (guarding : Guarding scene) (update : Option Guarded) (guards : ∀ entry ∈ update, Guards entry) :
    Guarding { scene with guarded := scene.guarded ++ update.toList } := by
  refine { guarding with guards := fun entry among => ?_ }
  rcases List.mem_append.mp among with before | last
  · exact guarding.guards entry before
  · exact guards entry (Option.mem_toList.mp last)

theorem Guarding.settle (guarding : Guarding scene) (update : Settings) : Guarding { scene with
      settings := scene.settings ++ [update]
      own := scene.own ++ [some update.threadId] } :=
  { guarding with linked := by rw [List.map_append, guarding.linked]; rfl }

def Selection.settle (serial : Option Nat) (message : JsonRpcMessage) (newest : Bool) (selection : Selection) : Selection :=
  if some selection.serial = serial then { selection with answer := some message, newest } else selection

theorem settle_serial (serial : Option Nat) (message : JsonRpcMessage) (newest : Bool) (selection : Selection) :
    (selection.settle serial message newest).serial = selection.serial := by
  unfold Selection.settle
  split <;> rfl

section
variable {selections : List Selection} (serials : (selections.map (·.serial)).Nodup) {index : Nat}
  {selection : Selection} (found : selections[index]? = some selection)

include serials found

/-- Of selections with numbers of their own, only the one answered changes. -/
theorem settle_other {message : JsonRpcMessage} {newest : Bool} {other : Selection} (among : other ∈ selections)
    (differs : other ≠ selection) : other.settle (some selection.serial) message newest = other := by
  unfold Selection.settle
  split
  · next same =>
    exact absurd (List.inj_on_of_nodup_map serials among (List.mem_of_getElem? found) (Option.some.inj same)) differs
  · rfl

/-- An answer that is not to the newest selection changes nothing that counts. -/
theorem chosenThread_stale (unanswered : selection.answer = none) (message : JsonRpcMessage) :
    chosenThread (selections.map (Selection.settle (some selection.serial) message false)) = chosenThread selections := by
  unfold chosenThread
  rw [List.filterMap_map]
  refine congrArg _ (congrArg _ (List.filterMap_congr fun other among => ?_))
  dsimp only [Function.comp]
  by_cases same : other = selection
  · rw [same]
    simp [Selection.settle, Selection.chosen, unanswered]
  · rw [settle_other serials found among same]

end

theorem chosenThread_last (before : List Selection) (selection : Selection) : chosenThread (before ++ [selection]) =
    match selection.chosen with
    | some threadId => threadId
    | none => chosenThread before := by
  unfold chosenThread
  cases chosen : selection.chosen with
  | none => simp [chosen]
  | some threadId => simp [chosen]

theorem settle_last {before : List Selection} {selection : Selection} (serials : ((before ++ [selection]).map (·.serial)).Nodup)
    (message : JsonRpcMessage) (newest : Bool) :
    (before ++ [selection]).map (Selection.settle (some selection.serial) message newest) =
      before ++ [{ selection with answer := some message, newest }] := by
  rw [List.map_append]
  have found : (before ++ [selection])[before.length]? = some selection := List.getElem?_concat_length
  have kept : before.map (Selection.settle (some selection.serial) message newest) = before := by
    conv => rhs; rw [← List.map_id before]
    refine List.map_congr_left fun other among => ?_
    refine settle_other serials found (List.mem_append_left _ among) fun same => ?_
    rw [List.map_append, List.nodup_append] at serials
    exact serials.2.2 _ (List.mem_map.mpr ⟨other, among, rfl⟩) _ (List.mem_singleton.mpr rfl) (congrArg _ same)
  rw [kept]
  simp [Selection.settle]

theorem settle_stays {selections : List Selection} {index : Nat} {selection : Selection} (found : selections[index]? = some selection)
    {serial : Option Nat} (differs : some selection.serial ≠ serial) (message : JsonRpcMessage) (newest : Bool) :
    (selections.map (Selection.settle serial message newest))[index]? = some selection := by
  rw [List.getElem?_map, found]
  exact congrArg some (if_neg differs)

def settledThreads (threads : Threads) (counts : Bool) (message : JsonRpcMessage) : Threads :=
  { threads with
    primarySelectionPending := threads.primarySelectionPending && !counts
    primaryThreadId := if counts && !message.error.any truthy && !ephemeral message then stringField (answeredThread message) "id"
      else threads.primaryThreadId
    currentThreadId := (stringField (answeredThread message) "id").or threads.currentThreadId }

theorem Guarding.answer (guarding : Guarding scene) {id : JsonRpcId} {request : PendingRequest} (among : (id, request) ∈ scene.pending)
    (isSelecting : selectingMethods.contains request.method = true) (message : JsonRpcMessage) (addressed : Option JsString) :
    Guarding { scene with
      pending := scene.pending.filter fun entry => entry.1 ≠ id
      selections := scene.selections.map (Selection.settle request.serial message
        (request.primarySelectionGeneration = some scene.threads.primarySelectionGeneration))
      threads := settledThreads scene.threads (request.clientId = scene.primaryClientId &&
        request.primarySelectionGeneration = some scene.threads.primarySelectionGeneration) message
      addressed } := by
  have dropped := guarding.drop fun entry => entry.1 ≠ id
  have serials : ((scene.selections.map (Selection.settle request.serial message
      (request.primarySelectionGeneration = some scene.threads.primarySelectionGeneration))).map (·.serial)) =
      scene.selections.map (·.serial) := by
    rw [List.map_map]
    exact List.map_congr_left fun selection _ => settle_serial _ _ _ selection
  -- Open, the request is the primary's and its selection is one of those noted.
  have settles (isOpen : scene.upstreamOpen = true) :
      (settledThreads scene.threads (request.clientId = scene.primaryClientId &&
        request.primarySelectionGeneration = some scene.threads.primarySelectionGeneration) message).primaryThreadId =
          chosenThread (scene.selections.map (Selection.settle request.serial message
            (request.primarySelectionGeneration = some scene.threads.primarySelectionGeneration))) ∧
      (settledThreads scene.threads (request.clientId = scene.primaryClientId &&
        request.primarySelectionGeneration = some scene.threads.primarySelectionGeneration) message).primarySelectionPending =
          awaitsAnswer (scene.selections.map (Selection.settle request.serial message
            (request.primarySelectionGeneration = some scene.threads.primarySelectionGeneration))) := by
    obtain ⟨clientId, index, selection, isClient, isPrimary, generation, found, serial, unanswered⟩ :=
      guarding.selecting isOpen _ among isSelecting
    have chosen := guarding.chosen isOpen
    have awaiting := guarding.awaiting isOpen
    rw [isClient, isPrimary, generation, guarding.generation, serial]
    by_cases newest : index + 1 = scene.selections.length
    · have isLast : scene.selections.getLast? = some selection := by
        rw [List.getLast?_eq_getElem?, ← newest]
        exact found
      obtain ⟨before, last⟩ := List.getLast?_eq_some_iff.mp isLast
      have all := guarding.serials
      rw [last] at all chosen awaiting ⊢
      rw [settle_last all, chosenThread_last]
      have unchosen : chosenThread (before ++ [selection]) = chosenThread before := by
        rw [chosenThread_last]
        simp [Selection.chosen, unanswered]
      rw [unchosen] at chosen
      rw [last] at newest
      simp only [settledThreads, newest, decide_true, Bool.and_self, Bool.true_and, Bool.not_true, Bool.and_false, Selection.chosen]
      refine ⟨?_, by simp [awaitsAnswer]⟩
      split
      · rfl
      · exact chosen
    · have stale : (some (index + 1) = some scene.selections.length) ↔ False := by simp [newest]
      simp only [settledThreads, stale, decide_false, Bool.and_false, Bool.false_and, Bool.false_eq_true, if_false, Bool.not_false,
        Bool.and_true]
      refine ⟨chosen.trans (chosenThread_stale guarding.serials found unanswered message).symm, awaiting.trans ?_⟩
      -- The newest selection is another one.
      unfold awaitsAnswer
      rw [List.getLast?_map]
      cases newestSelection : scene.selections.getLast? with
      | none => rfl
      | some other =>
        have differs : other ≠ selection := by
          rintro rfl
          rw [List.getLast?_eq_getElem?] at newestSelection
          have inside := (List.getElem?_eq_some_iff.mp found).1
          have same := (List.getElem?_inj inside (List.Nodup.of_map _ guarding.serials)).mp (found.trans newestSelection.symm)
          omega
        rw [Option.map_some, settle_other guarding.serials found (List.mem_of_getLast? newestSelection) differs]
  refine ⟨guarding.linked, guarding.guards, or_named (stringField_named _ _) guarding.named, ?_, by rw [serials]; exact guarding.serials,
    fun selection among => ?_, dropped.bounded, dropped.keyed, fun isOpen => (settles isOpen).1, fun isOpen => (settles isOpen).2,
    fun isOpen entry remains selects => ?_⟩
  · rw [List.length_map]
    exact guarding.generation
  · obtain ⟨before, member, rfl⟩ := List.mem_map.mp among
    rw [settle_serial]
    exact guarding.below before member
  · obtain ⟨clientId, index, selection, isClient, isPrimary, generation, found, serial, unanswered⟩ :=
      dropped.selecting isOpen entry remains selects
    refine ⟨clientId, index, selection, isClient, isPrimary, generation, settle_stays found ?_ message _, serial, unanswered⟩
    intro same
    obtain ⟨member, differs⟩ := List.mem_filter.mp remains
    exact of_decide_eq_true differs (guarding.keyed entry member _ among selection.serial serial same.symm)

end

end SpaceApp.AppServer.Routing
