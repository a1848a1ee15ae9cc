import SpaceApp.Foundation.EventStream
import SpaceApp.Foundation.Utf8

/-! A reader of server-sent events: bytes arrive in chunks, are decoded, and every
block a blank line completes is handled; the rest waits in a buffer that is cut to its
end when it grows past a limit.
-/

set_option autoImplicit false

namespace SpaceApp.Foundation

structure BlockReader (σ : Type) where
  state : σ
  decoder : TextDecoder := {}
  buffer : JsString := []

/-- Past `limit` units only the last `keep` stay; no limit, no cut. -/
def boundBuffer (limit : Option Nat) (keep : Nat) (buffer : JsString) : JsString :=
  if limit.any fun most => most < buffer.length then buffer.drop (buffer.length - keep) else buffer

namespace BlockReader

section

variable {σ : Type} (limit : Option Nat) (keep : Nat) (handle : σ → JsString → σ)

def handleAll (state : σ) (blocks : List EventBlock) : σ :=
  blocks.foldl (fun state block => handle state block.content) state

def push (reader : BlockReader σ) (chunk : List UInt8) : BlockReader σ :=
  let decoded := reader.decoder.decode chunk
  let cut := eventBlocks (reader.buffer ++ decoded.2)
  { state := handleAll handle reader.state cut.1
    decoder := decoded.1
    buffer := boundBuffer limit keep cut.2 }

def feed (reader : BlockReader σ) (chunks : List (List UInt8)) : BlockReader σ :=
  chunks.foldl (push limit keep handle) reader

/-- Every block of the text fits the limit, the blank line that ends it counted up to its
last unit. -/
def Fits (text : JsString) : Prop :=
  ∀ most, limit = some most → ∀ block ∈ (eventBlocks text).1, block.span ≤ most + 1

/-- The reader stands where `seen` of the text `seen ++ ahead` has been read. A cut buffer is
the end of a text no blank line will end. -/
structure At (initial : σ) (seen ahead : JsString) (reader : BlockReader σ) : Prop where
  state : reader.state = handleAll handle initial (eventBlocks seen).1
  buffer : ∃ front, (eventBlocks seen).2 = front ++ reader.buffer ∧
    (front = [] ∨ searchBlock ((eventBlocks seen).2 ++ ahead) = none)

variable {handle}

theorem handleAll_append (state : σ) (first second : List EventBlock) :
    handleAll handle state (first ++ second) = handleAll handle (handleAll handle state first) second := by
  simp [handleAll]

theorem boundBuffer_front (buffer : JsString) : ∃ front, buffer = front ++ boundBuffer limit keep buffer := by
  unfold boundBuffer
  split
  · exact ⟨buffer.take (buffer.length - keep), (List.take_append_drop _ _).symm⟩
  · exact ⟨[], rfl⟩

theorem searchBlock_before {text more : JsString} (absent : searchBlock (text ++ more) = none) :
    searchBlock text = none := by
  cases found : searchBlock text with
  | none => rfl
  | some cut =>
    rw [searchBlock_append more (show _ = some (cut.1, cut.2) from found)] at absent
    cases absent

/-- The bound cuts a rest only when no blank line will end it. -/
theorem boundBuffer_pending {seen ahead : JsString} (fits : Fits limit (seen ++ ahead)) :
    boundBuffer limit keep (eventBlocks seen).2 = (eventBlocks seen).2 ∨
      searchBlock ((eventBlocks seen).2 ++ ahead) = none := by
  cases found : searchBlock ((eventBlocks seen).2 ++ ahead) with
  | none => exact .inr rfl
  | some cut =>
    left
    have shorter := searchBlock_span (eventBlocks_rest seen) (show _ = some (cut.1, cut.2) from found)
    have member : cut.1 ∈ (eventBlocks (seen ++ ahead)).1 := by
      rw [eventBlocks_append, eventBlocks_some (show _ = some (cut.1, cut.2) from found)]
      simp
    unfold boundBuffer
    rw [if_neg]
    cases most : limit with
    | none => simp
    | some most =>
      have := fits _ most _ member
      simp only [Option.any_some, decide_eq_true_eq]
      omega

theorem At.push {initial : σ} {seen ahead : JsString} {reader : BlockReader σ} {chunk : List UInt8}
    (here : At handle initial seen ((reader.decoder.decode chunk).2 ++ ahead) reader)
    (fits : Fits limit (seen ++ (reader.decoder.decode chunk).2 ++ ahead)) :
    At handle initial (seen ++ (reader.decoder.decode chunk).2) ahead (push limit keep handle reader chunk) := by
  obtain ⟨front, cut, pending⟩ := here.buffer
  set text := (reader.decoder.decode chunk).2 with textDef
  have whole := eventBlocks_append seen text
  by_cases clean : front = []
  · -- the buffer is the whole rest, so the reader cuts the same blocks
    rw [clean, List.nil_append] at cut
    constructor
    · simp only [BlockReader.push, ← textDef, ← cut, here.state, whole, handleAll_append]
    · simp only [BlockReader.push, ← textDef, ← cut]
      rcases boundBuffer_pending limit keep fits with kept | never
      · rw [whole] at kept ⊢
        exact ⟨[], kept.symm, .inl rfl⟩
      · rw [whole] at never ⊢
        obtain ⟨front, same⟩ := boundBuffer_front limit keep
          (eventBlocks ((eventBlocks seen).2 ++ text)).2
        exact ⟨front, same, .inr never⟩
  · -- nothing ends the rest, in the whole text or in its kept end
    have never := pending.resolve_left clean
    rw [← List.append_assoc] at never
    have noBlock : searchBlock ((eventBlocks seen).2 ++ text) = none := searchBlock_before never
    have noBlockHere : searchBlock (reader.buffer ++ text) = none := by
      rw [cut, List.append_assoc] at noBlock
      exact searchBlock_suffix noBlock
    rw [eventBlocks_none noBlock] at whole
    constructor
    · simp only [BlockReader.push, ← textDef, eventBlocks_none noBlockHere, whole, here.state]
      simp [handleAll]
    · simp only [BlockReader.push, ← textDef, eventBlocks_none noBlockHere, whole]
      obtain ⟨more, same⟩ := boundBuffer_front limit keep (reader.buffer ++ text)
      refine ⟨front ++ more, ?_, .inr never⟩
      rw [cut, List.append_assoc, List.append_assoc, ← same]

/-- However a stream is cut, the reader handles the blocks of its whole text in order. -/
theorem feed_state (initial : σ) (chunks : List (List UInt8))
    (fits : Fits limit (({} : TextDecoder).decode chunks.flatten).2) :
    (feed limit keep handle { state := initial } chunks).state =
      handleAll handle initial (eventBlocks (({} : TextDecoder).decode chunks.flatten).2).1 := by
  have run : ∀ (chunks : List (List UInt8)) (seen : JsString) (reader : BlockReader σ),
      At handle initial seen (reader.decoder.decode chunks.flatten).2 reader →
      Fits limit (seen ++ (reader.decoder.decode chunks.flatten).2) →
      (feed limit keep handle reader chunks).state =
        handleAll handle initial (eventBlocks (seen ++ (reader.decoder.decode chunks.flatten).2)).1 := by
    intro chunks
    induction chunks with
    | nil =>
      intro seen reader here _
      simpa [feed, TextDecoder.decode] using here.state
    | cons chunk rest ih =>
      intro seen reader here fits
      rw [List.flatten_cons, TextDecoder.decode_append, ← List.append_assoc] at fits
      rw [List.flatten_cons, TextDecoder.decode_append] at here
      have next := At.push limit keep here fits
      rw [List.flatten_cons, TextDecoder.decode_append, ← List.append_assoc]
      exact ih _ _ next fits
  have start : At handle initial [] (({} : TextDecoder).decode chunks.flatten).2 { state := initial } :=
    ⟨rfl, [], rfl, .inl rfl⟩
  simpa using run chunks [] { state := initial } start (by simpa using fits)

end

end BlockReader

end SpaceApp.Foundation
