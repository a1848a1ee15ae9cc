import SpaceApp.Gateway.Codex.Chat
import SpaceApp.Gateway.Codex.Stream
import SpaceApp.Gateway.Claude.Stream
import SpaceApp.Gateway.Antigravity.Chunking

/-! The stream inspectors and the chat translator read a byte stream the same however it is
cut into chunks.
-/

set_option autoImplicit false

namespace SpaceApp.Gateway.Codex

open SpaceApp.Foundation

namespace Chat

section

variable (runtime : ChatRuntime) (createdSeconds : ℚ)

def ChatStreamTranslator.pushAll (reader : BlockReader ChatStreamTranslator) :
    List (List UInt8) → BlockReader ChatStreamTranslator × List UInt8
  | [] => (reader, [])
  | chunk :: rest =>
      let pushed := ChatStreamTranslator.push runtime createdSeconds reader chunk
      let later := ChatStreamTranslator.pushAll pushed.1 rest
      (later.1, pushed.2 ++ later.2)

def ChatStreamTranslator.written (translator : ChatStreamTranslator) (text : JsString) : JsString :=
  (BlockReader.handleAll (outputBlock runtime createdSeconds) (translator, []) (eventBlocks text).1).2

theorem render_whole (emission : ChatEmission) : TextEncoder.Whole (emission.render runtime createdSeconds) := by
  unfold ChatEmission.render TextEncoder.Whole
  rw [List.getLast?_append]
  rfl

theorem flatMap_whole (emissions : List ChatEmission) :
    TextEncoder.Whole (emissions.flatMap (ChatEmission.render runtime createdSeconds)) := by
  induction emissions with
  | nil => rfl
  | cons emission rest ih =>
    exact (render_whole runtime createdSeconds emission).append ih

/-- Output already written stays in front, and no block's output ends in half a character. -/
theorem handleAll_output (translator : ChatStreamTranslator) (blocks : List EventBlock) :
    ∃ text, TextEncoder.Whole text ∧ ∀ before : JsString,
      BlockReader.handleAll (ChatStreamTranslator.outputBlock runtime createdSeconds) (translator, before) blocks =
        ((BlockReader.handleAll (ChatStreamTranslator.outputBlock runtime createdSeconds) (translator, []) blocks).1,
          before ++ text) := by
  induction blocks generalizing translator with
  | nil => exact ⟨[], rfl, fun before => by simp [BlockReader.handleAll]⟩
  | cons block rest ih =>
    obtain ⟨text, whole, later⟩ := ih (translator.handleBlock runtime block.content).1
    simp only [BlockReader.handleAll, List.foldl_cons, ChatStreamTranslator.outputBlock] at later ⊢
    refine ⟨_, (flatMap_whole runtime createdSeconds (translator.handleBlock runtime block.content).2).append whole, ?_⟩
    intro before
    rw [later, later ([] ++ _), List.append_assoc]

/-- The bytes written are the encoded output of the blocks, in however many pieces. -/
theorem pushAll_output (chunks : List (List UInt8)) (reader : BlockReader ChatStreamTranslator) :
    ∃ text, TextEncoder.Whole text ∧
      (ChatStreamTranslator.pushAll runtime createdSeconds reader chunks).2 = TextEncoder.encode text ∧
      ∀ before : JsString, (BlockReader.feed none 0 (ChatStreamTranslator.outputBlock runtime createdSeconds)
        { state := (reader.state, before), decoder := reader.decoder, buffer := reader.buffer } chunks).state.2 =
          before ++ text := by
  induction chunks generalizing reader with
  | nil => exact ⟨[], rfl, rfl, fun before => by simp [BlockReader.feed]⟩
  | cons chunk rest ih =>
    obtain ⟨first, firstWhole, pushed⟩ := handleAll_output runtime createdSeconds reader.state
      (eventBlocks (reader.buffer ++ (reader.decoder.decode chunk).2)).1
    obtain ⟨later, laterWhole, bytes, fed⟩ := ih (ChatStreamTranslator.push runtime createdSeconds reader chunk).1
    refine ⟨first ++ later, firstWhole.append laterWhole, ?_, ?_⟩
    · have here : (ChatStreamTranslator.push runtime createdSeconds reader chunk).2 = TextEncoder.encode first := by
        simp only [ChatStreamTranslator.push, BlockReader.push]
        rw [pushed []]
        rfl
      rw [ChatStreamTranslator.pushAll, bytes, here, TextEncoder.encode_append first later firstWhole]
    · intro before
      have step := fed (before ++ first)
      rw [List.append_assoc] at step
      rw [← step, BlockReader.feed, List.foldl_cons, BlockReader.feed]
      simp only [ChatStreamTranslator.push, BlockReader.push]
      rw [pushed before]

theorem pushAll_written (translator : ChatStreamTranslator) (chunks : List (List UInt8)) :
    (ChatStreamTranslator.pushAll runtime createdSeconds { state := translator } chunks).2 =
      TextEncoder.encode (translator.written runtime createdSeconds
        (({} : TextDecoder).decode chunks.flatten).2) := by
  obtain ⟨text, _, bytes, fed⟩ := pushAll_output runtime createdSeconds chunks { state := translator }
  have whole : (BlockReader.feed none 0 (ChatStreamTranslator.outputBlock runtime createdSeconds)
      { state := (translator, []) } chunks).state = _ :=
    BlockReader.feed_state none 0 (translator, []) chunks (by intro most absurd_; cases absurd_)
  rw [bytes, ChatStreamTranslator.written, ← whole, fed []]
  rfl

end

end Chat

end SpaceApp.Gateway.Codex

namespace SpaceApp.Gateway

open SpaceApp.Foundation SpaceApp.Gateway.Codex

def streamText (chunks : List (List UInt8)) : JsString := (({} : TextDecoder).decode chunks.flatten).2

theorem Codex.ResponseStreamInspector.feed_state (chunks : List (List UInt8))
    (fits : BlockReader.Fits (some tailLimit) (streamText chunks)) : (ResponseStreamInspector.feed chunks).state =
      BlockReader.handleAll inspectBlock {} (eventBlocks (streamText chunks)).1 := by
  exact BlockReader.feed_state (some tailLimit) tailKept ({} : StreamView) chunks fits

def Claude.ClaudeStreamInspector.feed (chunks : List (List UInt8)) : Claude.ClaudeStreamInspector :=
  chunks.foldl (fun inspector chunk => (inspector.push chunk).1) Claude.ClaudeStreamInspector.new

theorem Claude.ClaudeStreamInspector.feed_state (chunks : List (List UInt8))
    (fits : BlockReader.Fits (some tailLimit) (streamText chunks)) : (ClaudeStreamInspector.feed chunks).state =
      BlockReader.handleAll Claude.inspectBlock {} (eventBlocks (streamText chunks)).1 := by
  exact BlockReader.feed_state (some tailLimit) tailKept ({} : Claude.ClaudeStreamView) chunks fits

section

variable (runtime : Chat.ChatRuntime) (createdSeconds : ℚ) (translator : Chat.ChatStreamTranslator)

/-- Two ways of cutting one byte stream show the same, as long as the blocks of an event
stream fit the buffer and the whitespace before a JSON body does. -/
theorem chunking_same (first second : List (List UInt8)) (same : first.flatten = second.flatten) :
    (BlockReader.Fits (some tailLimit) (streamText first) →
      (ResponseStreamInspector.feed first).state = (ResponseStreamInspector.feed second).state ∧
      (Claude.ClaudeStreamInspector.feed first).state = (Claude.ClaudeStreamInspector.feed second).state) ∧
    (Antigravity.CodeAssistStreamInspector.StreamFits (streamText first) →
      (Antigravity.CodeAssistStreamInspector.feed first).finish.reader.state =
        (Antigravity.CodeAssistStreamInspector.feed second).finish.reader.state) ∧
    (Chat.ChatStreamTranslator.pushAll runtime createdSeconds { state := translator } first).2 =
      (Chat.ChatStreamTranslator.pushAll runtime createdSeconds { state := translator } second).2 := by
  have text : streamText second = streamText first := by rw [streamText, streamText, same]
  refine ⟨fun fits => ⟨?_, ?_⟩, fun fits => ?_, ?_⟩
  · rw [ResponseStreamInspector.feed_state first fits, ResponseStreamInspector.feed_state second (by rwa [text]), text]
  · rw [Claude.ClaudeStreamInspector.feed_state first fits,
      Claude.ClaudeStreamInspector.feed_state second (by rwa [text]), text]
  · rw [Antigravity.CodeAssistStreamInspector.feed_wholeView first fits,
      Antigravity.CodeAssistStreamInspector.feed_wholeView second (by rwa [← same]), same]
  · rw [Chat.pushAll_written, Chat.pushAll_written, same]

end

def sampleEvent : List UInt8 := TextEncoder.encode (js "event: response.completed\r\n\r\n")

theorem sampleEvent_fits (second : List (List UInt8)) (same : second.flatten = sampleEvent) :
    BlockReader.Fits (some tailLimit) (streamText second) := by
  intro most limit block member
  cases limit
  rw [streamText, same] at member
  have blocks : (eventBlocks (({} : TextDecoder).decode sampleEvent).2).1 =
      [{ content := js "event: response.completed", blank := [CR, LF, CR, LF] }] := by decide +kernel
  rw [blocks, List.mem_singleton] at member
  rw [member]
  decide

/-- An event whose blank line is cut in the middle. -/
theorem chunking_same_event :
    let first := [sampleEvent.take 27, sampleEvent.drop 27]
    let second := [sampleEvent]
    let runtime : Chat.ChatRuntime := { decimal := fun _ => js "0", toNumber := fun _ => .nan }
    let translator : Chat.ChatStreamTranslator := { model := js "m", includeUsage := false }
    (ResponseStreamInspector.feed first).state = (ResponseStreamInspector.feed second).state ∧
    (Claude.ClaudeStreamInspector.feed first).state = (Claude.ClaudeStreamInspector.feed second).state ∧
    (Antigravity.CodeAssistStreamInspector.feed first).finish.reader.state =
      (Antigravity.CodeAssistStreamInspector.feed second).finish.reader.state ∧
    (Chat.ChatStreamTranslator.pushAll runtime 0 { state := translator } first).2 =
      (Chat.ChatStreamTranslator.pushAll runtime 0 { state := translator } second).2 := by
  have flat : [sampleEvent.take 27, sampleEvent.drop 27].flatten = sampleEvent := by decide +kernel
  have fits := sampleEvent_fits _ flat
  obtain ⟨inspectors, codeAssist, chat⟩ := chunking_same
    { decimal := fun _ => js "0", toNumber := fun _ => .nan } 0 { model := js "m", includeUsage := false }
    [sampleEvent.take 27, sampleEvent.drop 27] [sampleEvent] (by decide +kernel)
  refine ⟨(inspectors fits).1, (inspectors fits).2, codeAssist ?_, chat⟩
  exact fits

theorem searchBlock_plain {body : JsString} (plain : LF ∉ body ∧ CR ∉ body) :
    searchBlock (body ++ [CR, LF, CR, LF]) = some ({ content := body, blank := [CR, LF, CR, LF] }, []) := by
  induction body with
  | nil => decide
  | cons unit rest ih =>
    obtain ⟨noLF, noCR⟩ := plain
    rw [List.mem_cons, not_or] at noLF noCR
    have here : blankLine (unit :: (rest ++ [CR, LF, CR, LF])) = none := by
      simp only [blankLine, newline, if_neg (Ne.symm noLF.1), if_neg (Ne.symm noCR.1), Option.bind_none]
    rw [List.cons_append, searchBlock, here, ih ⟨noLF.2, noCR.2⟩]
    rfl

theorem searchBlock_open {body : JsString} (plain : LF ∉ body) : searchBlock (body ++ [CR, LF, CR]) = none := by
  cases found : searchBlock (body ++ [CR, LF, CR]) with
  | none => rfl
  | some cut =>
    have count := searchBlock_count (show _ = some (cut.1, cut.2) from found)
    rw [List.count_append, List.count_eq_zero_of_not_mem plain] at count
    have one : [CR, LF, CR].count LF = 1 := by decide
    omega

theorem splitLines_plain {body : JsString} (plain : LF ∉ body ∧ CR ∉ body) : splitLines body = [body] := by
  induction body with
  | nil => rfl
  | cons unit rest ih =>
    obtain ⟨noLF, noCR⟩ := plain
    rw [List.mem_cons, not_or] at noLF noCR
    rw [splitLines, if_neg (Ne.symm noLF.1), if_neg (fun same => noCR.1 same.1.symm), ih ⟨noLF.2, noCR.2⟩]

def sampleHead : JsString := js "event: response.completed"

def paddedBlock (count : Nat) : JsString := sampleHead ++ List.replicate count 0x20

theorem paddedBlock_plain (count : Nat) : LF ∉ paddedBlock count ∧ CR ∉ paddedBlock count := by
  have head : LF ∉ sampleHead ∧ CR ∉ sampleHead := by decide
  unfold paddedBlock
  simp only [List.mem_append, not_or]
  exact ⟨⟨head.1, fun member => absurd (List.eq_of_mem_replicate member) (by decide)⟩,
    head.2, fun member => absurd (List.eq_of_mem_replicate member) (by decide)⟩

theorem replicate_plain (count : Nat) : LF ∉ List.replicate count (0x20 : CodeUnit) ∧
    CR ∉ List.replicate count (0x20 : CodeUnit) :=
  ⟨fun member => absurd (List.eq_of_mem_replicate member) (by decide),
    fun member => absurd (List.eq_of_mem_replicate member) (by decide)⟩

theorem eventName_padded (count : Nat) : eventName (paddedBlock count) = some (js "response.completed") := by
  have line : fieldLine (js "event:") (paddedBlock count) =
      some (js " response.completed" ++ List.replicate count 0x20) := rfl
  have trimmed : trimUnits (js " response.completed" ++ List.replicate count 0x20) = js "response.completed" := by
    have front : (js " response.completed" ++ List.replicate count 0x20).dropWhile isSpaceUnit =
        js "response.completed" ++ List.replicate count 0x20 := rfl
    have back : ∀ unit ∈ List.replicate count (0x20 : CodeUnit), isSpaceUnit unit = true := by
      intro unit member
      rw [List.eq_of_mem_replicate member]
      rfl
    unfold trimUnits
    rw [front, List.reverse_append, List.reverse_replicate, List.dropWhile_append,
      List.dropWhile_eq_nil_iff.mpr back]
    rfl
  unfold eventName
  rw [splitLines_plain (paddedBlock_plain count), List.filterMap_cons_some line, List.filterMap_nil,
    List.getLast?_singleton, Option.map_some, trimmed]

theorem inspect_padded (count : Nat) : (inspectBlock {} (paddedBlock count)).outcome.status = .success := by
  have noData : blockData (paddedBlock count) = [] := by
    have line : dataLine (paddedBlock count) = none := rfl
    unfold blockData
    rw [splitLines_plain (paddedBlock_plain count), List.filterMap_cons_none line]
    rfl
  simp only [inspectBlock, handleBlock, noData, eventName_padded, true_or, if_true]
  rfl

theorem inspect_padding (count : Nat) : inspectBlock {} (List.replicate count 0x20) = {} := by
  have lines := splitLines_plain (replicate_plain count)
  have noData : blockData (List.replicate count 0x20) = [] := by
    have line : dataLine (List.replicate count 0x20) = none := by cases count <;> rfl
    unfold blockData
    rw [lines, List.filterMap_cons_none line]
    rfl
  have noName : eventName (List.replicate count 0x20) = none := by
    have line : fieldLine (js "event:") (List.replicate count 0x20) = none := by cases count <;> rfl
    unfold eventName
    rw [lines, List.filterMap_cons_none line]
    rfl
  simp only [inspectBlock, handleBlock, noData, noName, true_or, if_true]
  rfl

/-- A padded block and its blank line up to the last LF. -/
def paddedBytes (count : Nat) : List UInt8 :=
  TextEncoder.encode sampleHead ++ List.replicate count 0x20 ++ [0x0D, 0x0A, 0x0D]

theorem paddedBytes_ascii (count : Nat) : ∀ byte ∈ paddedBytes count ++ [0x0A], byte.toNat ≤ 0x7F := by
  have head : ∀ byte ∈ TextEncoder.encode sampleHead, byte.toNat ≤ 0x7F := by decide +kernel
  have tail : ∀ byte ∈ ([0x0D, 0x0A, 0x0D] : List UInt8), byte.toNat ≤ 0x7F := by decide +kernel
  intro byte member
  simp only [paddedBytes, List.mem_append, List.mem_singleton] at member
  rcases member with ((member | member) | member) | member
  · exact head byte member
  · rw [List.eq_of_mem_replicate member]
    decide
  · exact tail byte member
  · rw [member]
    decide

theorem paddedBytes_text (count : Nat) :
    (paddedBytes count).map (fun byte => byte.toNat.toUInt16) = paddedBlock count ++ [CR, LF, CR] := by
  have head : (TextEncoder.encode sampleHead).map (fun byte => byte.toNat.toUInt16) = sampleHead := by decide
  rw [paddedBytes, List.map_append, List.map_append, head, List.map_replicate]
  rfl

theorem padded_whole (count : Nat) : (eventBlocks (streamText [paddedBytes count ++ [0x0A]])).1 =
        [{ content := paddedBlock count, blank := [CR, LF, CR, LF] }] ∧
      (ResponseStreamInspector.feed [paddedBytes count ++ [0x0A]]).state.outcome.status = .success := by
  have text : (({} : TextDecoder).decode (paddedBytes count ++ [0x0A])).2 =
      paddedBlock count ++ [CR, LF, CR, LF] := by
    rw [(TextDecoder.decode_ascii {} rfl _ (paddedBytes_ascii count)).2, List.map_append, paddedBytes_text]
    simp [LF]
  have found := searchBlock_plain (paddedBlock_plain count)
  have blocks : eventBlocks (paddedBlock count ++ [CR, LF, CR, LF]) =
      ([{ content := paddedBlock count, blank := [CR, LF, CR, LF] }], []) := by
    rw [eventBlocks_some found]
    rfl
  constructor
  · rw [streamText, List.flatten_singleton, text, blocks]
  · have whole : (ResponseStreamInspector.feed [paddedBytes count ++ [0x0A]]).state =
        BlockReader.handleAll inspectBlock {} (eventBlocks ([] ++ (({} : TextDecoder).decode
          (paddedBytes count ++ [0x0A])).2)).1 := rfl
    rw [whole, text, List.nil_append, blocks]
    exact inspect_padded count

theorem paddedBlock_length (count : Nat) : (paddedBlock count).length = 25 + count := by
  rw [paddedBlock, List.length_append, List.length_replicate]
  rfl

theorem padded_kept {count : Nat} (long : tailLimit < (paddedBlock count ++ [CR, LF, CR]).length) :
    ∃ rest, boundBuffer (some tailLimit) tailKept (paddedBlock count ++ [CR, LF, CR]) =
      List.replicate rest 0x20 ++ [CR, LF, CR] := by
  unfold boundBuffer
  rw [if_pos (by simpa using long)]
  have total : (paddedBlock count ++ [CR, LF, CR]).length = 28 + count := by
    rw [List.length_append, paddedBlock_length]
    change 25 + count + 3 = 28 + count
    omega
  rw [total] at long ⊢
  have limit : tailLimit = 8388608 := rfl
  have keep : tailKept = 1048576 := rfl
  have head : sampleHead.length = 25 := rfl
  refine ⟨count - (28 + count - tailKept - 25), ?_⟩
  have inTail : 28 + count - tailKept - 25 - count = 0 := by omega
  rw [paddedBlock, List.append_assoc, List.drop_append, head, List.drop_eq_nil_of_le (by omega), List.nil_append,
    List.drop_append, List.length_replicate, inTail, List.drop_replicate, List.drop_zero]

theorem padded_cut (count : Nat) (long : tailLimit < (paddedBlock count ++ [CR, LF, CR]).length) :
    (ResponseStreamInspector.feed [paddedBytes count, [0x0A]]).state.outcome.status = .unterminated := by
  have ascii : ∀ byte ∈ paddedBytes count, byte.toNat ≤ 0x7F :=
    fun byte member => paddedBytes_ascii count byte (List.mem_append_left _ member)
  obtain ⟨plain, text⟩ := TextDecoder.decode_ascii {} rfl _ ascii
  rw [paddedBytes_text] at text
  obtain ⟨rest, kept⟩ := padded_kept long
  have first : (ResponseStreamInspector.new.push (paddedBytes count)).1 =
      { state := {}
        decoder := (({} : TextDecoder).decode (paddedBytes count)).1
        buffer := List.replicate rest 0x20 ++ [CR, LF, CR] } := by
    simp only [ResponseStreamInspector.push, BlockReader.push, ResponseStreamInspector.new, text, List.nil_append,
      eventBlocks_none (searchBlock_open (paddedBlock_plain count).1), kept]
    rfl
  have last : ((({} : TextDecoder).decode (paddedBytes count)).1.decode [0x0A]).2 = [LF] :=
    (TextDecoder.decode_ascii _ plain [0x0A] (by decide +kernel)).2
  have found : eventBlocks (List.replicate rest 0x20 ++ [CR, LF, CR] ++ [LF]) =
      ([{ content := List.replicate rest 0x20, blank := [CR, LF, CR, LF] }], []) := by
    rw [List.append_assoc]
    exact (eventBlocks_some (searchBlock_plain (replicate_plain rest)))
  rw [ResponseStreamInspector.feed, List.foldl_cons, first, List.foldl_cons, List.foldl_nil]
  simp only [ResponseStreamInspector.push, BlockReader.push, last, found, BlockReader.handleAll, List.foldl_cons,
    List.foldl_nil, inspect_padding]

/-- A JSON body behind a line with a no-break space, which JSON does not take for whitespace. -/
def spacedBody : List (List UInt8) :=
  [[0xC2, 0xA0, 0x0A, 0x0A], TextEncoder.encode (js "\x7b\"modelVersion\":\"m\"\x7d")]

/-- A block of exactly the limit, and a JSON body behind a blank line, depend on the chunks. -/
theorem full_block_differs : (¬ ∀ first second : List (List UInt8), first.flatten = second.flatten →
      (∀ block ∈ (eventBlocks (streamText first)).1, block.content.length ≤ 8 * 1024 * 1024) →
        (ResponseStreamInspector.feed first).state = (ResponseStreamInspector.feed second).state) ∧
    ¬ ∀ first second : List (List UInt8), first.flatten = second.flatten →
      (∀ block ∈ (eventBlocks (streamText first)).1, block.content.length ≤ 8 * 1024 * 1024) →
        (Antigravity.CodeAssistStreamInspector.feed first).finish.reader.state =
          (Antigravity.CodeAssistStreamInspector.feed second).finish.reader.state := by
  constructor
  · intro claim
    have same := claim [paddedBytes (8 * 1024 * 1024 - 25) ++ [0x0A]] [paddedBytes (8 * 1024 * 1024 - 25), [0x0A]]
      (by rw [List.flatten_cons, List.flatten_cons, List.flatten_cons]; simp) (by
        rw [(padded_whole _).1]
        intro block member
        rw [List.mem_singleton.mp member, paddedBlock_length])
    have status := congrArg (fun view => view.outcome.status) same
    rw [(padded_whole _).2, padded_cut _ (by rw [List.length_append, paddedBlock_length]; decide)] at status
    cases status
  · intro claim
    have same := claim spacedBody [spacedBody.flatten] (by rw [List.flatten_singleton]) (by decide +kernel)
    have model := congrArg Antigravity.CodeAssistView.model same
    exact absurd model (by decide +kernel)

end SpaceApp.Gateway
