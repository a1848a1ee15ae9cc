import SpaceApp.Gateway.Codex.ChatAgreement

/-! What the chunks of a chat stream keep to, whatever events the upstream sends. -/

set_option autoImplicit false

namespace SpaceApp.Gateway.Codex.Chat

open SpaceApp.Foundation

namespace ChatEmission

def isRole : ChatEmission → Bool
  | .chunk _ _ .role _ => true
  | _ => false

/-- The chunk gives the tool call `index` its id and name. -/
def announces (index : Nat) : ChatEmission → Prop
  | .chunk _ _ (.toolStart started _ _) _ => started = index
  | _ => False

def finishes : ChatEmission → Bool
  | .chunk _ _ _ finish => finish.isSome
  | _ => false

def isDone : ChatEmission → Bool
  | .done => true
  | _ => false

/-- The role comes before content, tool calls and the finish reason. Arguments are of a call announced before; while none is,
they go to the call 0. -/
def MayFollow (sent : List ChatEmission) : ChatEmission → Prop
  | .chunk _ _ (.content _) _ => ∃ first ∈ sent, first.isRole
  | .chunk _ _ (.toolStart _ _ _) _ => ∃ first ∈ sent, first.isRole
  | .chunk _ _ .nothing _ => ∃ first ∈ sent, first.isRole
  | .chunk _ _ (.toolArguments index _) _ =>
      (∃ start ∈ sent, start.announces index) ∨ (index = 0 ∧ ∀ start ∈ sent, ∀ other, ¬ start.announces other)
  | _ => True

end ChatEmission

def Orderly (sent : List ChatEmission) : Prop :=
  ∀ before next after, sent = before ++ next :: after → next.MayFollow before

theorem Orderly.snoc {sent : List ChatEmission} {next : ChatEmission} (orderly : Orderly sent) (may : next.MayFollow sent) :
    Orderly (sent ++ [next]) := by
  intro before other after same
  rcases List.append_eq_append_iff.mp same with ⟨more, rfl, last⟩ | ⟨more, rfl, rest⟩
  · cases more with
    | nil =>
      cases last
      rwa [List.append_nil]
    | cons _ more => cases more <;> cases last
  · cases more with
    | nil =>
      cases rest
      rwa [List.append_nil] at may
    | cons _ more =>
      cases rest
      exact orderly _ _ _ rfl

def ends (event : JsonObject JsNumber) : Bool :=
  isType event "response.completed" || isType event "response.incomplete" || isType event "response.failed" ||
    isType event "error"

def Quiet (runtime : ChatRuntime) (event : JsonObject JsNumber) : Prop :=
  ∀ translator : ChatStreamTranslator, (translator.handle runtime event).2 = []

def streamed (runtime : ChatRuntime) (model : JsString) (includeUsage : Bool) (events : List (JsonObject JsNumber)) :
    List ChatEmission :=
  let answered := ChatStreamTranslator.answer runtime { model, includeUsage } events
  answered.2 ++ answered.1.finish

/-- What was sent, and what the translator knows of it. -/
structure Formed (translator : ChatStreamTranslator) (sent : List ChatEmission) : Prop where
  orderly : Orderly sent
  roles : sent.countP (·.isRole) = if translator.sentRole then 1 else 0
  announced : ∀ index, (∃ start ∈ sent, start.announces index) ↔ index < translator.toolCount
  indexes : ∀ entry ∈ translator.toolIndexes, entry.2 < translator.toolCount
  unclosed : translator.finished = false → ∀ next ∈ sent, next.isDone = false ∧ next.finishes = false

/-- A chunk that opens nothing, and closes the stream only once it is finished. -/
def Plain (translator : ChatStreamTranslator) (next : ChatEmission) : Prop :=
  next.isRole = false ∧ (∀ index, ¬ next.announces index) ∧
    (translator.finished = false → next.isDone = false ∧ next.finishes = false)

section

variable {runtime : ChatRuntime} {translator : ChatStreamTranslator} {sent : List ChatEmission} {event : JsonObject JsNumber}

section
variable (formed : Formed translator sent)

include formed

theorem Formed.add {next : ChatEmission} (may : next.MayFollow sent)
    (plain : Plain translator next) : Formed translator (sent ++ [next]) where
  orderly := formed.orderly.snoc may
  roles := by
    rw [List.countP_append, formed.roles]
    simp [plain.1]
  announced index := by
    rw [← formed.announced index]
    simp [or_and_right, exists_or, plain.2.1]
  indexes := formed.indexes
  unclosed going other among := by
    rcases List.mem_append.mp among with earlier | last
    · exact formed.unclosed going other earlier
    · rw [List.mem_singleton.mp last]
      exact plain.2.2 going

theorem Formed.spoken (said : translator.sentRole = true) : ∃ first ∈ sent, first.isRole := by
  have once := formed.roles
  rw [if_pos said] at once
  have positive : 0 < sent.countP (·.isRole) := by omega
  exact List.countP_pos_iff.mp positive

theorem Formed.role : Formed translator.role.1 (sent ++ translator.role.2) ∧ translator.role.1.sentRole = true := by
  unfold ChatStreamTranslator.role
  split
  · next said =>
    rw [List.append_nil]
    exact ⟨formed, said⟩
  · next unsaid =>
    refine ⟨⟨formed.orderly.snoc trivial, ?_, fun index => ?_, formed.indexes, fun going next among => ?_⟩, rfl⟩
    · rw [List.countP_append, formed.roles, if_neg unsaid]
      rfl
    · rw [← formed.announced index]
      simp [or_and_right, exists_or, ChatStreamTranslator.chunk, ChatEmission.announces]
    · rcases List.mem_append.mp among with earlier | last
      · exact formed.unclosed going next earlier
      · rw [List.mem_singleton.mp last]
        exact ⟨rfl, rfl⟩

/-- The call an argument event goes to was announced, or none was and it is the call 0. -/
theorem Formed.arguments (item : Option (JsonObject JsNumber)) (text : JsString) :
    (translator.chunk (.toolArguments (translator.toolIndex runtime event item) text)).MayFollow sent := by
  have known : translator.toolIndex runtime event item < translator.toolCount ∨
      (translator.toolIndex runtime event item = 0 ∧ translator.toolCount = 0) := by
    unfold ChatStreamTranslator.toolIndex
    dsimp only
    cases found : List.findSome? _ _ with
    | none =>
      simp only [Option.getD_none]
      omega
    | some index =>
      obtain ⟨key, -, here⟩ := List.exists_of_findSome?_eq_some found
      obtain ⟨before, after, entries, -⟩ := List.lookup_eq_some_iff.mp here
      exact .inl (formed.indexes (key, index) (by simp [entries]))
  rcases known with below | ⟨zero, none_⟩
  · exact .inl ((formed.announced _).mpr below)
  · refine .inr ⟨zero, fun start among other announces => ?_⟩
    have below := (formed.announced other).mp ⟨start, among, announces⟩
    omega

theorem Formed.sends (item : Option (JsonObject JsNumber)) (text : JsString) (streamedArguments : List Nat) :
    Formed { translator with streamedArguments }
      (sent ++ [translator.chunk (.toolArguments (translator.toolIndex runtime event item) text)]) :=
  have added := formed.add (formed.arguments item text) ⟨rfl, fun _ => id, fun _ => ⟨rfl, rfl⟩⟩
  { added with }

theorem Formed.toolAdded (item : JsonObject JsNumber) :
    Formed (translator.toolAdded runtime event item).1 (sent ++ (translator.toolAdded runtime event item).2) := by
  obtain ⟨spoken, said⟩ := formed.role
  unfold ChatStreamTranslator.toolAdded
  dsimp only
  rw [← List.append_assoc]
  have entered : ∀ toolIndexes, ({ translator with toolCount := translator.toolCount + 1, toolIndexes }).role =
      ({ translator.role.1 with toolCount := translator.toolCount + 1, toolIndexes }, translator.role.2) := by
    intro toolIndexes
    unfold ChatStreamTranslator.role
    split <;> rfl
  have count : translator.role.1.toolCount = translator.toolCount := by
    unfold ChatStreamTranslator.role
    split <;> rfl
  rw [entered]
  refine ⟨spoken.orderly.snoc (spoken.spoken said), ?_, fun index => ?_, fun entry among => ?_, fun going next among => ?_⟩
  · rw [List.countP_append, spoken.roles]
    rfl
  · have earlier := spoken.announced index
    simp only [List.mem_append, List.mem_singleton, or_and_right, exists_or, exists_eq_left, ChatStreamTranslator.chunk,
      ChatEmission.announces] at earlier ⊢
    rw [earlier]
    omega
  · rcases List.mem_append.mp among with new | old
    · simp only [List.mem_reverse, List.mem_map] at new
      obtain ⟨key, -, rfl⟩ := new
      exact Nat.lt_succ_self _
    · exact Nat.lt_succ_of_lt (formed.indexes entry old)
  · rcases List.mem_append.mp among with earlier | last
    · exact spoken.unclosed going next earlier
    · rw [List.mem_singleton.mp last]
      exact ⟨rfl, rfl⟩

end

theorem role_finished (translator : ChatStreamTranslator) : translator.role.1.finished = translator.finished := by
  unfold ChatStreamTranslator.role
  split <;> rfl

theorem Formed.handle (formed : Formed translator sent) (event : JsonObject JsNumber) :
    Formed (translator.handle runtime event).1 (sent ++ (translator.handle runtime event).2) := by
  have silent : Formed translator (sent ++ []) := by rwa [List.append_nil]
  obtain ⟨spoken, said⟩ := formed.role
  have done : ∀ item, Formed (translator.argumentsDone runtime event item).1
      (sent ++ (translator.argumentsDone runtime event item).2) := by
    intro item
    unfold ChatStreamTranslator.argumentsDone
    dsimp only
    split
    · exact silent
    · exact formed.sends item _ _
  unfold ChatStreamTranslator.handle
  dsimp only
  split
  · exact { silent with }
  split
  · rw [← List.append_assoc]
    exact spoken.add (spoken.spoken said) ⟨rfl, fun _ => id, fun _ => ⟨rfl, rfl⟩⟩
  split
  · cases obj (event.get "item") with
    | none => exact silent
    | some item =>
      dsimp only
      split
      · exact formed.toolAdded item
      · exact silent
  split
  · exact formed.sends none _ _
  split
  · exact done _
  split
  · cases obj (event.get "item") with
    | none => exact silent
    | some item =>
      dsimp only
      split
      · exact done _
      · exact silent
  have last : Formed { translator with finished := true } sent :=
    { formed with unclosed := fun going => by cases going }
  split
  · obtain ⟨spoken, said⟩ := last.role
    have finished := role_finished { translator with finished := true }
    unfold ChatStreamTranslator.completed
    dsimp only
    rw [← List.append_assoc, ← List.append_assoc, ← List.append_assoc]
    refine Formed.add ?_ trivial ⟨rfl, fun _ => id, by simp [finished]⟩
    split
    · refine Formed.add (Formed.add spoken ?_ ⟨rfl, fun _ => id, by simp [finished]⟩) trivial ⟨rfl, fun _ => id, fun _ => ⟨rfl, rfl⟩⟩
      exact spoken.spoken said
    · rw [List.append_nil]
      refine Formed.add spoken ?_ ⟨rfl, fun _ => id, by simp [finished]⟩
      exact spoken.spoken said
  split
  · unfold ChatStreamTranslator.failed
    rw [List.append_cons]
    refine Formed.add (Formed.add last ?_ ⟨rfl, fun _ => id, nofun⟩) trivial ⟨rfl, fun _ => id, nofun⟩
    trivial
  · exact silent

theorem handle_ending (ending : ends event = true) : (translator.handle runtime event).1.finished = true ∧
    ∃ body, (translator.handle runtime event).2 = body ++ [.done] ∧ body.countP (·.isDone) = 0 ∧ body.countP (·.finishes) ≤ 1 := by
  have closes : translator.handle runtime event = translator.completed runtime (obj (event.get "response")) ∨
      translator.handle runtime event = translator.failed event := by
    simp only [ends, isType, Bool.or_eq_true, decide_eq_true_eq] at ending
    rcases ending with ((type | type) | type) | type <;> simp +decide [ChatStreamTranslator.handle, isType, type]
  rcases closes with same | same <;> rw [same]
  · unfold ChatStreamTranslator.completed
    refine ⟨role_finished _, _, rfl, ?_, ?_⟩ <;> unfold ChatStreamTranslator.role <;> split_ifs <;>
      simp +decide [ChatStreamTranslator.chunk, ChatEmission.isDone, ChatEmission.finishes]
  · exact ⟨rfl, [.error _ _], rfl, rfl, Nat.zero_le _⟩

theorem handle_finished : (translator.handle runtime event).1.finished = (translator.finished || ends event) := by
  cases ending : ends event with
  | true => rw [(handle_ending ending).1, Bool.or_true]
  | false =>
    simp only [ends, Bool.or_eq_false_iff] at ending
    obtain ⟨⟨⟨completed, incomplete⟩, failed⟩, error⟩ := ending
    unfold ChatStreamTranslator.handle ChatStreamTranslator.argumentsDone
    simp only [completed, incomplete, failed, error, Bool.or_false, Bool.false_eq_true, if_false]
    cases obj (event.get "item") <;> split_ifs <;> first | rfl | exact role_finished _ | (dsimp only; split_ifs <;> first | rfl | exact role_finished _)

end

section

variable (runtime : ChatRuntime) (model : JsString) (includeUsage : Bool)

theorem answer_snoc (translator : ChatStreamTranslator) (events : List (JsonObject JsNumber)) (event : JsonObject JsNumber) :
    translator.answer runtime (events ++ [event]) =
      (((translator.answer runtime events).1.handle runtime event).1,
        (translator.answer runtime events).2 ++ ((translator.answer runtime events).1.handle runtime event).2) := by
  simp only [ChatStreamTranslator.answer, List.foldl_append, List.foldl_cons, List.foldl_nil]

theorem answer_formed (events : List (JsonObject JsNumber)) :
    Formed (ChatStreamTranslator.answer runtime { model, includeUsage } events).1
      (ChatStreamTranslator.answer runtime { model, includeUsage } events).2 := by
  induction events using List.reverseRecOn with
  | nil => exact ⟨fun before next after same => by simp [ChatStreamTranslator.answer] at same, rfl,
      fun index => by simp [ChatStreamTranslator.answer], List.forall_mem_nil _, fun _ => List.forall_mem_nil _⟩
  | append_singleton events event ih =>
    rw [answer_snoc]
    exact ih.handle event

theorem answer_closes {events : List (JsonObject JsNumber)}
    (closed : events.Pairwise fun earlier later => ends earlier = true → Quiet runtime later) :
    (ChatStreamTranslator.answer runtime { model, includeUsage } events).1.finished = events.any ends ∧
      (events.any ends = true →
        ∃ body, (ChatStreamTranslator.answer runtime { model, includeUsage } events).2 = body ++ [.done] ∧
          body.countP (·.isDone) = 0 ∧ body.countP (·.finishes) ≤ 1) := by
  induction events using List.reverseRecOn with
  | nil => exact ⟨rfl, nofun⟩
  | append_singleton events event ih =>
    obtain ⟨earlier, -, quiet⟩ := List.pairwise_append.mp closed
    obtain ⟨flag, closes⟩ := ih earlier
    rw [answer_snoc, List.any_append, List.any_cons, List.any_nil, Bool.or_false]
    refine ⟨by rw [handle_finished, flag], fun ending => ?_⟩
    cases ended : events.any ends with
    | true =>
      obtain ⟨stop, among, stops⟩ := List.any_eq_true.mp ended
      rw [quiet stop among event (List.mem_singleton_self _) stops, List.append_nil]
      exact closes ended
    | false =>
      rw [ended, Bool.false_or] at ending
      have unclosed := (answer_formed runtime model includeUsage events).unclosed (flag.trans ended)
      obtain ⟨-, body, same, single, once⟩ := @handle_ending runtime
        (ChatStreamTranslator.answer runtime { model, includeUsage } events).1 event ending
      refine ⟨_ ++ body, by rw [same, List.append_assoc], ?_, ?_⟩
      · rw [List.countP_append, single, List.countP_eq_zero.mpr fun next sent => by simp [(unclosed next sent).1]]
      · rw [List.countP_append, List.countP_eq_zero.mpr fun next sent => by simp [(unclosed next sent).2], Nat.zero_add]
        exact once

end

/-- The role comes at most once, and first; arguments are of announced calls. A stream after whose end nothing is answered
closes once. -/
theorem chat_stream_well_formed (runtime : ChatRuntime) (model : JsString) (includeUsage : Bool)
    (events : List (JsonObject JsNumber)) : Orderly (streamed runtime model includeUsage events) ∧
      (streamed runtime model includeUsage events).countP (·.isRole) ≤ 1 ∧
      ((events.Pairwise fun earlier later => ends earlier = true → Quiet runtime later) →
        ∃ body, streamed runtime model includeUsage events = body ++ [.done] ∧ body.countP (·.isDone) = 0 ∧
          body.countP (·.finishes) ≤ 1) := by
  have formed := answer_formed runtime model includeUsage events
  have whole : Orderly (streamed runtime model includeUsage events) ∧
      (streamed runtime model includeUsage events).countP (·.isRole) ≤ 1 := by
    unfold streamed ChatStreamTranslator.finish
    dsimp only
    rw [List.countP_append, formed.roles]
    split
    · rw [List.append_nil]
      exact ⟨formed.orderly, by split <;> decide⟩
    · exact ⟨formed.orderly.snoc trivial, by split <;> decide⟩
  refine ⟨whole.1, whole.2, fun closed => ?_⟩
  obtain ⟨flag, closes⟩ := answer_closes runtime model includeUsage closed
  unfold streamed ChatStreamTranslator.finish
  dsimp only
  split
  · next finished =>
    rw [List.append_nil]
    exact closes (flag.symm.trans finished)
  · next going =>
    have unclosed := formed.unclosed (Bool.not_eq_true _ ▸ going)
    refine ⟨_, rfl, List.countP_eq_zero.mpr fun next sent => by simp [(unclosed next sent).1], ?_⟩
    rw [List.countP_eq_zero.mpr fun next sent => by simp [(unclosed next sent).2]]
    exact Nat.zero_le _

theorem chat_stream_well_formed_spoken : Orderly (streamed sampleRuntime (js "m") true [sampleText, sampleFinal []]) ∧
      ∃ body, streamed sampleRuntime (js "m") true [sampleText, sampleFinal []] = body ++ [.done] ∧
        body.countP (·.isDone) = 0 ∧ body.countP (·.finishes) ≤ 1 := by
  obtain ⟨orderly, -, closes⟩ := chat_stream_well_formed sampleRuntime (js "m") true [sampleText, sampleFinal []]
  refine ⟨orderly, closes (List.pairwise_pair.mpr fun ending => ?_)⟩
  exact absurd ending (by decide)

/-- An error and the failure that follows it close the stream twice; a stream of nothing has no role; and the arguments of a call
that was not added are of the call 0. -/
theorem error_and_failure_close_twice :
    (streamed sampleRuntime (js "m") false [[field "type" (text "error")], [field "type" (text "response.failed")]]).countP
        (·.isDone) = 2 ∧
      (streamed sampleRuntime (js "m") false []).countP (·.isRole) = 0 ∧
      ∃ id model arguments, streamed sampleRuntime (js "m") false [sampleArguments] =
        [.chunk id model (.toolArguments 0 arguments) none, .done] :=
  ⟨by decide +kernel, rfl, _, _, _, rfl⟩

end SpaceApp.Gateway.Codex.Chat
