import SpaceApp.Foundation.JsonGrammar
import SpaceApp.Gateway.Antigravity.Stream

/-! A Code Assist body reads the same however it is cut into chunks: an event stream by its
blocks, a JSON body by what the buffer keeps of it.
-/

set_option autoImplicit false

namespace SpaceApp.Gateway.Antigravity

open SpaceApp.Foundation SpaceApp.Gateway.Codex

namespace CodeAssistStreamInspector

def feed (chunks : List (List UInt8)) : CodeAssistStreamInspector := chunks.foldl push {}

def leading (text : JsString) : JsString := text.takeWhile isSpaceUnit

/-- The whitespace before a JSON body either stays in the buffer or does not matter. -/
def BodyFits (text : JsString) : Prop :=
  (searchBlock (leading text) = none ∧ (leading text).length ≤ tailLimit) ∨
    ((∀ unit ∈ leading text, JsonParser.isBlank unit = true) ∧ text.length ≤ MAX_JSON_CHARS)

def StreamFits (text : JsString) : Prop :=
  if opensJson text then BodyFits text else BlockReader.Fits (some tailLimit) text

def wholeView (text : JsString) : CodeAssistView :=
  if opensJson text then
    if MAX_JSON_CHARS < text.length then {} else readBody {} text
  else BlockReader.handleAll inspectBlock {} (eventBlocks text).1

def Blank (text : JsString) : Prop := ∀ unit ∈ text, isSpaceUnit unit = true

theorem trimStart_blank {text : JsString} : trimStart text = [] ↔ Blank text := List.dropWhile_eq_nil_iff

theorem trimStart_append {front : JsString} (blank : Blank front) (text : JsString) :
    trimStart (front ++ text) = trimStart text := by
  unfold trimStart
  rw [List.dropWhile_append, List.dropWhile_eq_nil_iff.mpr blank]
  rfl

theorem opensJson_blank {front : JsString} (blank : Blank front) (text : JsString) :
    opensJson (front ++ text) = opensJson text := by
  unfold opensJson
  rw [trimStart_append blank]

theorem opensJson_begun {text : JsString} (begun : trimStart text ≠ []) (more : JsString) :
    opensJson (text ++ more) = opensJson text := by
  have kept : trimStart (text ++ more) = trimStart text ++ more := by
    unfold trimStart at begun ⊢
    rw [List.dropWhile_append, if_neg (by simpa using begun)]
  unfold opensJson
  rw [kept, List.head?_append_of_ne_nil _ begun]

theorem blank_prefix {seen text : JsString} (blank : Blank seen) (before : seen <+: text) : seen <+: leading text := by
  obtain ⟨more, rfl⟩ := before
  unfold leading
  rw [List.takeWhile_append_of_pos blank]
  exact List.prefix_append _ _

theorem leading_blank (text : JsString) : Blank (leading text) :=
  fun _ member => List.mem_takeWhile_imp member

theorem inspectBlock_blank (view : CodeAssistView) {block : JsString} (blank : Blank block) :
    inspectBlock view block = view := by
  have lines : ∀ line ∈ splitLines block, Blank line := by
    induction block with
    | nil => simp [splitLines, Blank]
    | cons unit rest ih =>
      have later := ih fun unit member => blank unit (List.mem_cons_of_mem _ member)
      unfold splitLines
      split
      · intro line member
        rcases List.mem_cons.mp member with rfl | member
        · simp [Blank]
        · exact later line member
      · split
        · exact later
        · split
          · intro line member
            rw [List.mem_singleton] at member
            subst member
            simpa [Blank] using blank unit List.mem_cons_self
          · next first lines same =>
            rw [same] at later
            intro line member
            rcases List.mem_cons.mp member with rfl | member
            · intro other member
              rcases List.mem_cons.mp member with rfl | member
              · exact blank _ List.mem_cons_self
              · exact later first List.mem_cons_self other member
            · exact later line (List.mem_cons_of_mem _ member)
  have noData : blockData block = [] := by
    unfold blockData
    have none_ : (splitLines block).filterMap dataLine = [] := by
      rw [List.filterMap_eq_nil_iff]
      intro line member
      unfold dataLine fieldLine
      rw [if_neg, Option.map_none]
      intro starts
      cases line with
      | nil => exact absurd starts (by decide)
      | cons unit rest =>
        have space := lines _ member unit List.mem_cons_self
        have same : unit = 0x64 := by
          have := List.isPrefixOf_iff_prefix.mp starts
          obtain ⟨_, same⟩ := this
          exact (List.cons.inj same).1.symm
        rw [same] at space
        exact absurd space (by decide)
    rw [none_]
    rfl
  unfold inspectBlock
  rw [noData]
  have empty : obj (parseJs []) = none := by decide +kernel
  rw [empty]

theorem handleAll_blank (view : CodeAssistView) {text : JsString} (blank : Blank text) :
    BlockReader.handleAll inspectBlock view (eventBlocks text).1 = view := by
  have blocks : ∀ block ∈ (eventBlocks text).1, Blank block.content := by
    intro block member unit inside
    apply blank
    rw [eventBlocks_parts text]
    exact List.mem_append_left _ (List.mem_flatMap.mpr ⟨block, member, List.mem_append_left _ inside⟩)
  unfold BlockReader.handleAll
  generalize (eventBlocks text).1 = cut at blocks
  induction cut with
  | nil => rfl
  | cons block rest ih =>
    rw [List.foldl_cons, inspectBlock_blank view (blocks block List.mem_cons_self)]
    exact ih fun other member => blocks other (List.mem_cons_of_mem _ member)

theorem rest_suffix (text : JsString) : boundBuffer (some tailLimit) tailKept (eventBlocks text).2 <:+ text := by
  obtain ⟨front, same⟩ := BlockReader.boundBuffer_front (some tailLimit) tailKept (eventBlocks text).2
  conv_rhs => rw [eventBlocks_parts text, same]
  exact ⟨_, List.append_assoc _ _ _⟩

/-- Not taken for a JSON body. -/
structure Streaming (seen : JsString) (inspector : CodeAssistStreamInspector) : Prop where
  notJson : inspector.json ≠ some true
  kept : inspector.skipped = false
  unknown : inspector.json = none → Blank seen ∧ Blank inspector.reader.buffer

theorem Streaming.push {seen ahead : JsString} {inspector : CodeAssistStreamInspector} {chunk : List UInt8}
    (here : Streaming seen inspector)
    (stream : opensJson (seen ++ (inspector.reader.decoder.decode chunk).2 ++ ahead) = false) :
    Streaming (seen ++ (inspector.reader.decoder.decode chunk).2) (push inspector chunk) ∧
      (push inspector chunk).reader =
        BlockReader.push (some tailLimit) tailKept inspectBlock inspector.reader chunk := by
  set text := (inspector.reader.decoder.decode chunk).2 with textDef
  unfold CodeAssistStreamInspector.push
  simp only [← textDef]
  cases known : inspector.json with
  | some answer =>
    cases answer with
    | true => exact absurd known here.notJson
    | false =>
      simp only [reduceCtorEq, false_and, if_false, Option.some.injEq, Bool.false_eq_true, here.kept]
      exact ⟨⟨by simp, rfl, by simp⟩, trivial⟩
  | none =>
    obtain ⟨seenBlank, bufferBlank⟩ := here.unknown known
    by_cases begun : trimStart (inspector.reader.buffer ++ text) = []
    · simp only [begun, ne_eq, not_true_eq_false, and_false, if_false, reduceCtorEq, here.kept, Bool.false_eq_true]
      refine ⟨⟨by simp, rfl, fun _ => ⟨?_, ?_⟩⟩, trivial⟩
      · rw [trimStart_append bufferBlank, trimStart_blank] at begun
        intro unit member
        exact (List.mem_append.mp member).elim (seenBlank unit) (begun unit)
      · intro unit member
        exact trimStart_blank.mp begun unit ((rest_suffix _).subset member)
    · have begunText : trimStart text ≠ [] := by rwa [trimStart_append bufferBlank] at begun
      have answer : opensJson (inspector.reader.buffer ++ text) = false := by
        rw [List.append_assoc, opensJson_blank seenBlank, opensJson_begun begunText] at stream
        rw [opensJson_blank bufferBlank, stream]
      simp only [begun, ne_eq, not_false_eq_true, and_self, if_true, answer, Option.some.injEq, Bool.false_eq_true,
        if_false, here.kept]
      exact ⟨⟨by simp, rfl, by simp⟩, trivial⟩

theorem Streaming.feed {seen : JsString} (chunks : List (List UInt8)) {inspector : CodeAssistStreamInspector}
    (here : Streaming seen inspector)
    (stream : opensJson (seen ++ (inspector.reader.decoder.decode chunks.flatten).2) = false) :
    (chunks.foldl CodeAssistStreamInspector.push inspector).json ≠ some true ∧
      (chunks.foldl CodeAssistStreamInspector.push inspector).reader =
        BlockReader.feed (some tailLimit) tailKept inspectBlock inspector.reader chunks := by
  induction chunks generalizing seen inspector with
  | nil => exact ⟨here.notJson, rfl⟩
  | cons chunk rest ih =>
    rw [List.flatten_cons, TextDecoder.decode_append, ← List.append_assoc] at stream
    obtain ⟨next, same⟩ := here.push stream
    have decoder : (CodeAssistStreamInspector.push inspector chunk).reader.decoder =
        (inspector.reader.decoder.decode chunk).1 := by
      rw [same]
      rfl
    rw [List.foldl_cons, BlockReader.feed, List.foldl_cons, ← same]
    exact ih next (by rw [decoder]; exact stream)

/-- What a buffer keeps of the text seen, cut while there is only whitespace. -/
structure Keeping (text : JsString) (Keeps : JsString → JsString → Prop) : Prop where
  start : Keeps [] []
  grow : ∀ {seen buffer : JsString} (more : JsString), Keeps seen buffer → Keeps (seen ++ more) (buffer ++ more)
  cut : ∀ {seen buffer : JsString}, seen <+: leading text → Keeps seen buffer →
    Keeps seen (boundBuffer (some tailLimit) tailKept (eventBlocks buffer).2)
  suffix : ∀ {seen buffer : JsString}, Keeps seen buffer → buffer <:+ seen
  long : ∀ {seen buffer : JsString}, seen <+: text → Keeps seen buffer → MAX_JSON_CHARS < seen.length →
    MAX_JSON_CHARS < buffer.length
  reads : ∀ {buffer : JsString}, Keeps text buffer → parseJs buffer = parseJs text

theorem keeping_whole {text : JsString} (one : searchBlock (leading text) = none)
    (short : (leading text).length ≤ tailLimit) : Keeping text fun seen buffer => buffer = seen where
  start := rfl
  grow := fun _ same => by rw [same]
  cut := by
    rintro seen buffer before rfl
    have length := before.length_le
    obtain ⟨more, same⟩ := before
    rw [eventBlocks_none (BlockReader.searchBlock_before (by rw [same]; exact one))]
    unfold boundBuffer
    rw [if_neg (by simp only [Option.any_some, decide_eq_true_eq]; omega)]
  suffix := fun same => by rw [same]
  long := fun _ same long => by rwa [same]
  reads := fun same => by rw [same]

theorem keeping_blanks {text : JsString} (blanks : ∀ unit ∈ leading text, JsonParser.isBlank unit = true)
    (short : text.length ≤ MAX_JSON_CHARS) : Keeping text fun seen buffer =>
      ∃ front, seen = front ++ buffer ∧ ∀ unit ∈ front, JsonParser.isBlank unit = true where
  start := ⟨[], rfl, by simp⟩
  grow := by
    rintro seen buffer more ⟨front, rfl, blank⟩
    exact ⟨front, List.append_assoc _ _ _, blank⟩
  cut := by
    rintro seen buffer before ⟨front, rfl, blank⟩
    obtain ⟨dropped, same⟩ := rest_suffix buffer
    refine ⟨front ++ dropped, by rw [List.append_assoc, same], ?_⟩
    intro unit member
    apply blanks
    apply before.subset
    rw [← same, ← List.append_assoc]
    exact List.mem_append_left _ member
  suffix := by
    rintro seen buffer ⟨front, rfl, _⟩
    exact List.suffix_append _ _
  long := fun before _ long => absurd (before.length_le.trans short) (by omega)
  reads := by
    rintro buffer ⟨front, same, blank⟩
    rw [same]
    exact (JsonGrammar.parse_blanks blank buffer).symm

structure Body (text : JsString) (Keeps : JsString → JsString → Prop) (seen : JsString)
    (inspector : CodeAssistStreamInspector) : Prop where
  state : inspector.reader.state = {}
  phase : (inspector.json = none ∧ inspector.skipped = false ∧ seen <+: leading text ∧
      Keeps seen inspector.reader.buffer) ∨
    (inspector.json = some true ∧ Keeps seen inspector.reader.buffer ∧ seen.length ≤ MAX_JSON_CHARS) ∨
    (inspector.json = some false ∧ inspector.skipped = true ∧ MAX_JSON_CHARS < seen.length)

theorem Body.push {text seen ahead : JsString} {Keeps : JsString → JsString → Prop} (keeping : Keeping text Keeps)
    (opens : opensJson text = true) {inspector : CodeAssistStreamInspector} {chunk : List UInt8}
    (here : Body text Keeps seen inspector) (whole : text = seen ++ (inspector.reader.decoder.decode chunk).2 ++ ahead) :
    Body text Keeps (seen ++ (inspector.reader.decoder.decode chunk).2) (push inspector chunk) ∧
      (push inspector chunk).reader.decoder = (inspector.reader.decoder.decode chunk).1 := by
  set piece := (inspector.reader.decoder.decode chunk).2 with pieceDef
  have before : seen ++ piece <+: text := ⟨ahead, whole.symm⟩
  -- the body is collected until it is too long
  have collects : ∀ {json : Option Bool} {skipped : Bool}, json = some true →
      Keeps (seen ++ piece) (inspector.reader.buffer ++ piece) →
      Body text Keeps (seen ++ piece)
        (if MAX_JSON_CHARS < (inspector.reader.buffer ++ piece).length then
          { reader := { inspector.reader with decoder := (inspector.reader.decoder.decode chunk).1, buffer := [] }
            json := some false
            skipped := true }
        else
          { reader := { inspector.reader with
              decoder := (inspector.reader.decoder.decode chunk).1
              buffer := inspector.reader.buffer ++ piece }
            json
            skipped }) := by
    intro json skipped json_ keeps
    split
    · next long =>
      exact ⟨here.state, .inr (.inr ⟨rfl, rfl, lt_of_lt_of_le long (keeping.suffix keeps).length_le⟩)⟩
    · next short =>
      refine ⟨here.state, .inr (.inl ⟨json_, keeps, ?_⟩)⟩
      by_contra long
      exact short (keeping.long before keeps (by omega))
  unfold CodeAssistStreamInspector.push
  simp only [← pieceDef]
  rcases here.phase with ⟨known, kept, blank, keeps⟩ | ⟨known, keeps, short⟩ | ⟨known, skipped, long⟩
  · by_cases begun : trimStart (inspector.reader.buffer ++ piece) = []
    · have bufferBlank : Blank (inspector.reader.buffer ++ piece) := trimStart_blank.mp begun
      have seenBlank : Blank (seen ++ piece) := by
        intro unit member
        rcases List.mem_append.mp member with member | member
        · exact leading_blank text unit (blank.subset member)
        · exact bufferBlank unit (List.mem_append_right _ member)
      simp only [begun, known, kept, ne_eq, not_true_eq_false, and_false, if_false, reduceCtorEq, Bool.false_eq_true]
      have leads := blank_prefix seenBlank before
      refine ⟨⟨?_, .inl ⟨rfl, rfl, leads, keeping.cut leads (keeping.grow piece keeps)⟩⟩, rfl⟩
      simp only [BlockReader.push, ← pieceDef, here.state]
      exact handleAll_blank {} bufferBlank
    · have bufferBlank : Blank inspector.reader.buffer :=
        fun unit member => leading_blank text unit (blank.subset ((keeping.suffix keeps).subset member))
      have begunPiece : trimStart piece ≠ [] := by rwa [trimStart_append bufferBlank] at begun
      have answer : opensJson (inspector.reader.buffer ++ piece) = true := by
        have seenBlank : Blank seen := fun unit member => leading_blank text unit (blank.subset member)
        rw [whole, List.append_assoc, opensJson_blank seenBlank, opensJson_begun begunPiece] at opens
        rw [opensJson_blank bufferBlank, opens]
      simp only [known, begun, ne_eq, not_false_eq_true, and_self, if_true, answer]
      exact ⟨collects rfl (keeping.grow piece keeps), by split <;> rfl⟩
  · simp only [known, reduceCtorEq, false_and, if_false, if_true]
    exact ⟨collects rfl (keeping.grow piece keeps), by split <;> rfl⟩
  · simp only [known, reduceCtorEq, false_and, if_false, Option.some.injEq, Bool.false_eq_true, skipped, if_true]
    refine ⟨⟨here.state, .inr (.inr ⟨rfl, rfl, ?_⟩)⟩, trivial⟩
    rw [List.length_append]
    omega

section
variable {text : JsString} {Keeps : JsString → JsString → Prop} (keeping : Keeping text Keeps)
  (opens : opensJson text = true)

include keeping opens

theorem Body.feed (chunks : List (List UInt8)) {seen : JsString} {inspector : CodeAssistStreamInspector}
    (here : Body text Keeps seen inspector) (whole : text = seen ++ (inspector.reader.decoder.decode chunks.flatten).2) :
    Body text Keeps text (chunks.foldl CodeAssistStreamInspector.push inspector) := by
  induction chunks generalizing seen inspector with
  | nil =>
    rw [List.flatten_nil, TextDecoder.decode, List.append_nil] at whole
    rw [whole] at here ⊢
    exact here
  | cons chunk rest ih =>
    rw [List.flatten_cons, TextDecoder.decode_append, ← List.append_assoc] at whole
    obtain ⟨next, decoder⟩ := here.push keeping opens whole
    exact ih next (by rw [decoder]; exact whole)

theorem Body.finish {inspector : CodeAssistStreamInspector} (here : Body text Keeps text inspector) :
    inspector.finish.reader.state = wholeView text := by
  unfold wholeView
  rw [if_pos opens]
  unfold CodeAssistStreamInspector.finish
  rcases here.phase with ⟨_, _, blank, _⟩ | ⟨known, keeps, short⟩ | ⟨known, _, long⟩
  · have empty : trimStart text = [] :=
      trimStart_blank.mpr fun unit member => leading_blank text unit (blank.subset member)
    unfold opensJson at opens
    rw [empty] at opens
    cases opens
  · rw [if_pos known, if_neg (by omega), here.state]
    unfold readBody
    rw [keeping.reads keeps]
  · rw [if_pos long, known]
    exact here.state

end

/-- A body that fits shows the same however it is cut. -/
theorem feed_wholeView (chunks : List (List UInt8)) (fits : StreamFits (({} : TextDecoder).decode chunks.flatten).2) :
    (feed chunks).finish.reader.state = wholeView (({} : TextDecoder).decode chunks.flatten).2 := by
  set text := (({} : TextDecoder).decode chunks.flatten).2 with textDef
  unfold StreamFits at fits
  cases opens : opensJson text with
  | true =>
    rw [if_pos opens] at fits
    have body : ∀ {Keeps : JsString → JsString → Prop}, Keeping text Keeps →
        (feed chunks).finish.reader.state = wholeView text := by
      intro Keeps keeping
      have start : Body text Keeps [] {} := ⟨rfl, .inl ⟨rfl, rfl, List.nil_prefix, keeping.start⟩⟩
      exact (start.feed keeping opens chunks textDef).finish keeping opens
    rcases fits with ⟨one, short⟩ | ⟨blanks, short⟩
    · exact body (keeping_whole one short)
    · exact body (keeping_blanks blanks short)
  | false =>
    rw [opens, if_neg Bool.false_ne_true] at fits
    have start : Streaming [] {} := ⟨by simp, rfl, fun _ => ⟨by simp [Blank], by simp [Blank]⟩⟩
    obtain ⟨notJson, same⟩ := start.feed chunks opens
    unfold wholeView CodeAssistStreamInspector.finish
    rw [opens, if_neg Bool.false_ne_true, feed, if_neg notJson, same]
    exact BlockReader.feed_state (some tailLimit) tailKept ({} : CodeAssistView) chunks fits

end CodeAssistStreamInspector

end SpaceApp.Gateway.Antigravity
