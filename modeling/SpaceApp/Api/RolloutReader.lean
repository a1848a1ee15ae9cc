import Mathlib.Data.List.DropRight
import SpaceApp.Foundation.Reach
import SpaceApp.Foundation.TextLines
import SpaceApp.Foundation.Utf8

/-! The reader of Codex rollouts, which reads a growing transcript on from where its last read stopped.

The file keeps its inode and device and only grows. The reads of one key come one after the other: a call joins the
read that is under way. Other keys do no more than take the scan of this one out of the cache.
-/

set_option autoImplicit false

namespace SpaceApp.Api.Rollouts

open SpaceApp.Foundation

section

variable {α : Type}

/-- What stands in a text cut in two stands in its first part, or reaches into the second one. -/
theorem infix_append_iff {sought first second : List α} (some_ : sought ≠ []) :
    sought <:+: first ++ second ↔ sought <:+: first ∨ sought <:+: first.rtake (sought.length - 1) ++ second := by
  have cut : first.rtake (sought.length - 1) ++ second = (first ++ second).drop (first.length - (sought.length - 1)) := by
    rw [List.rtake, List.drop_append_of_le_length (by omega)]
  rw [cut]
  constructor
  · rintro ⟨before, after, same⟩
    by_cases inside : before.length + sought.length ≤ first.length
    · left
      have starts : before ++ sought <+: first :=
        List.prefix_of_prefix_length_le ⟨after, same⟩ (List.prefix_append first second) (by simpa using inside)
      obtain ⟨rest, whole⟩ := starts
      exact ⟨before, rest, whole⟩
    · right
      refine ⟨before.drop (first.length - (sought.length - 1)), after, ?_⟩
      rw [← same, List.append_assoc, List.append_assoc, List.drop_append_of_le_length (by omega)]
  · rintro (found | found)
    · exact found.trans (List.prefix_append first second).isInfix
    · exact found.trans (List.drop_suffix _ _).isInfix

theorem rtake_append (count : Nat) (first second : List α) :
    (first.rtake count ++ second).rtake count = (first ++ second).rtake count := by
  rw [List.rtake, List.rtake, List.rtake, ← List.drop_append_of_le_length (by omega), List.drop_drop, List.length_drop]
  congr 1
  simp only [List.length_append]
  omega

end

structure RolloutReducer (Value State Checkpoint : Type) where
  create : State
  accept : State → JsString → State
  result : State → Value
  checkpoint : State → Checkpoint
  restore : State → Checkpoint → State

structure Scan (State : Type) where
  reducer : State
  offset : Nat := 0
  mtimeMs : ℚ
  decoder : TextDecoder := { started := true }
  partial_ : List JsString := []
  matched : Bool
  matchTail : JsString := []
  tail : List UInt8 := []
  prefix_ : List UInt8 := []

structure Info where
  size : Nat
  mtimeMs : ℚ

structure Answer (Value : Type) where
  value : Value
  mtimeMs : ℚ
  matched : Bool

/-- A read under way: what its `stat` said, its scan, and what no step reads, the content it was opened with. -/
structure Flight (State : Type) where
  info : Info
  scan : Scan State
  opened : List UInt8

structure Reader (Value State : Type) where
  content : List UInt8
  cached : Option (Scan State) := none
  flight : Option (Flight State) := none
  answers : List (List UInt8 × Answer Value) := []

inductive Event where
  | append (bytes : List UInt8)
  /-- The file is opened and looked at; so many bytes come back where tail and prefix are compared. -/
  | opens (mtimeMs : ℚ) (tailRead prefixRead : Nat)
  | reads (bytesRead : Nat)
  | ends
  /-- Whatever goes wrong on the way, with the file or in the reducer. -/
  | fails
  | evicts

def readBytes : Nat := 64 * 1024

section

variable {Value State Checkpoint : Type} (reducer : RolloutReducer Value State Checkpoint)

/-- The lines of a chunk, the first one behind what came before it. -/
def acceptLines : State → List JsString → List JsString → State × List JsString
  | state, partial_, [] => (state, partial_)
  | state, partial_, [last] => (state, if last = [] then partial_ else partial_ ++ [last])
  | state, partial_, line :: lines => acceptLines (reducer.accept state (partial_ ++ [line]).flatten) [] lines

/-- A `contains` that is absent counts as the empty one. -/
def search (contains : JsString) (matched : Bool) (matchTail text : JsString) : Bool × JsString :=
  if !matched && !contains.isEmpty then
    let candidate := matchTail ++ text
    let found := decide (contains <:+: candidate)
    (found, if found || contains.length = 1 then [] else candidate.rtake (contains.length - 1))
  else (matched, matchTail)

variable (contains : JsString)

def fresh (info : Info) : Scan State :=
  { reducer := reducer.create, mtimeMs := info.mtimeMs, matched := contains.isEmpty }

def Scan.replaced (scan : Scan State) (info : Info) (content : List UInt8) (tailRead prefixRead : Nat) : Bool :=
  if info.size < scan.offset || (info.size = scan.offset && info.mtimeMs ≠ scan.mtimeMs) then true
  else if info.size > scan.offset && !scan.tail.isEmpty then
    (content.drop (scan.offset - scan.tail.length)).take (min tailRead scan.tail.length) != scan.tail ||
      content.take (min prefixRead scan.prefix_.length) != scan.prefix_
  else false

def Scan.take (scan : Scan State) (chunk : List UInt8) : Scan State :=
  let (decoder, text) := scan.decoder.decode chunk
  let (matched, matchTail) := search contains scan.matched scan.matchTail text
  let (state, partial_) := acceptLines reducer scan.reducer scan.partial_ (text.splitOn LF)
  { reducer := state
    offset := scan.offset + chunk.length
    mtimeMs := scan.mtimeMs
    decoder
    partial_
    matched
    matchTail
    tail := chunk.rtake 128
    prefix_ := if scan.prefix_.isEmpty then chunk.take 128 else scan.prefix_ }

/-- The last line, if it is there, is previewed and not committed. -/
def Scan.answer (scan : Scan State) (info : Info) : Answer Value × Scan State :=
  let checkpoint := reducer.checkpoint scan.reducer
  let partial_ := scan.partial_.flatten
  let previewed := if partial_.isEmpty then scan.reducer else reducer.accept scan.reducer partial_
  ({ value := reducer.result previewed, mtimeMs := info.mtimeMs, matched := scan.matched },
    { scan with
      mtimeMs := info.mtimeMs
      reducer := reducer.restore previewed checkpoint })

namespace Reader

def allowed (reader : Reader Value State) : Event → Prop
  | .opens _ _ _ => reader.flight.isNone = true
  | .reads bytesRead => (reader.flight.any fun flight =>
      0 < bytesRead && bytesRead ≤ min readBytes (flight.info.size - flight.scan.offset)) = true
  | .ends => (reader.flight.any fun flight => flight.info.size ≤ flight.scan.offset) = true
  | .append _ | .fails | .evicts => True

instance (reader : Reader Value State) (event : Event) : Decidable (reader.allowed event) := by
  cases event <;> unfold allowed <;> infer_instance

def step (reader : Reader Value State) : Event → Reader Value State
  | .append bytes => { reader with content := reader.content ++ bytes }
  | .opens mtimeMs tailRead prefixRead =>
      let info : Info := { size := reader.content.length, mtimeMs }
      let scan := match reader.cached with
        | some scan =>
            if scan.replaced info reader.content tailRead prefixRead then fresh reducer contains info else scan
        | none => fresh reducer contains info
      { reader with
        cached := none
        flight := some { info, scan, opened := reader.content } }
  | .reads bytesRead => { reader with
      flight := reader.flight.map fun flight =>
        { flight with
          scan := flight.scan.take reducer contains ((reader.content.drop flight.scan.offset).take bytesRead) } }
  | .ends =>
      match reader.flight with
      | none => reader
      | some flight =>
          let (answer, scan) := flight.scan.answer reducer flight.info
          { reader with
            flight := none
            cached := if (TextEncoder.encode scan.partial_.flatten).length ≤ readBytes then some scan else none
            answers := reader.answers ++ [(flight.opened, answer)] }
  | .fails => { reader with
      cached := none
      flight := none }
  | .evicts => { reader with cached := none }

end Reader

def textOf (bytes : List UInt8) : JsString := (TextDecoder.decode { started := true } bytes).2

def completeLines (text : JsString) : List JsString := (text.splitOn LF).dropLast

def unfinishedLine (text : JsString) : JsString := (text.splitOn LF).getLastD []

def fullRead (bytes : List UInt8) : Value :=
  let state := (completeLines (textOf bytes)).foldl reducer.accept reducer.create
  reducer.result (if unfinishedLine (textOf bytes) = [] then state
    else reducer.accept state (unfinishedLine (textOf bytes)))

/-- `restore(checkpoint())` undoes an accept, or nothing. -/
structure RolloutReducer.Undoes : Prop where
  nothing : ∀ state, reducer.restore state (reducer.checkpoint state) = state
  accept : ∀ state line, reducer.restore (reducer.accept state line) (reducer.checkpoint state) = state

/-- The scan is what reading the content up to its offset makes of a fresh one. -/
structure Scan.At (scan : Scan State) (content : List UInt8) : Prop where
  within : scan.offset ≤ content.length
  decoder : scan.decoder = (TextDecoder.decode { started := true } (content.take scan.offset)).1
  reducer : scan.reducer =
    (completeLines (textOf (content.take scan.offset))).foldl reducer.accept reducer.create
  partial_ : scan.partial_.flatten = unfinishedLine (textOf (content.take scan.offset))
  matched : scan.matched = true ↔ contains <:+: textOf (content.take scan.offset)
  matchTail : scan.matched = false →
    scan.matchTail = (textOf (content.take scan.offset)).rtake (contains.length - 1)

variable {reducer contains} {scan : Scan State} {content : List UInt8}

theorem acceptLines_eq (state : State) (partial_ lines : List JsString) (some_ : lines ≠ []) :
    (acceptLines reducer state partial_ lines).1 =
        (lines.modifyHead (partial_.flatten ++ ·)).dropLast.foldl reducer.accept state ∧
      (acceptLines reducer state partial_ lines).2.flatten = (lines.modifyHead (partial_.flatten ++ ·)).getLastD [] := by
  induction lines generalizing state partial_ with
  | nil => exact absurd rfl some_
  | cons line rest ih =>
    cases rest with
    | nil =>
      refine ⟨rfl, ?_⟩
      by_cases empty : line = [] <;> simp [acceptLines, empty]
    | cons next rest =>
      obtain ⟨accepted, left⟩ := ih (reducer.accept state (partial_ ++ [line]).flatten) [] (by simp)
      constructor
      · simpa [acceptLines] using accepted
      · simpa [acceptLines] using left

theorem textOf_append (first second : List UInt8) : textOf (first ++ second) =
    textOf first ++ (TextDecoder.decode (TextDecoder.decode { started := true } first).1 second).2 := by
  simp only [textOf, TextDecoder.decode_append]

theorem fresh_at (info : Info) : (fresh reducer contains info).At reducer contains content where
  within := Nat.zero_le _
  decoder := rfl
  reducer := rfl
  partial_ := rfl
  matched := by simp [fresh, textOf, TextDecoder.decode]
  matchTail := fun _ => by simp [fresh, textOf, TextDecoder.decode, List.rtake]

theorem search_eq {text before : JsString} {matched : Bool} {matchTail : JsString}
    (found : matched = true ↔ contains <:+: before)
    (tail : matched = false → matchTail = before.rtake (contains.length - 1)) :
    ((search contains matched matchTail text).1 = true ↔ contains <:+: before ++ text) ∧
      ((search contains matched matchTail text).1 = false →
        (search contains matched matchTail text).2 = (before ++ text).rtake (contains.length - 1)) := by
  by_cases before_ : matched = true
  · have goesOn := (found.mp before_).trans (List.prefix_append before text).isInfix
    simp [search, before_, goesOn]
  · have some_ : contains ≠ [] := by
      rintro rfl
      exact before_ (found.mpr (List.nil_infix))
    rw [tail (by simpa using before_)]
    have cut := @infix_append_iff _ _ before text some_
    simp only [found.not.mp before_, false_or] at cut
    simp only [search, before_, List.isEmpty_eq_false_iff.mpr some_, Bool.not_false, Bool.and_self, if_true, decide_eq_true_eq,
      decide_eq_false_iff_not, ← cut, true_and]
    intro absent
    by_cases short : contains.length = 1
    · simp [short, List.rtake]
    · simp only [absent, short, decide_false, Bool.or_self, Bool.false_eq_true, if_false]
      exact rtake_append _ _ _

namespace Scan.At

variable (at_ : scan.At reducer contains content)

include at_

theorem append (more : List UInt8) : scan.At reducer contains (content ++ more) := by
  have same : (content ++ more).take scan.offset = content.take scan.offset :=
    List.take_append_of_le_length at_.within
  have longer : scan.offset ≤ (content ++ more).length := by
    rw [List.length_append]
    exact Nat.le_add_right_of_le at_.within
  refine ⟨longer, ?_, ?_, ?_, ?_, ?_⟩ <;> rw [same]
  exacts [at_.decoder, at_.reducer, at_.partial_, at_.matched, at_.matchTail]

/-- A chunk, however it cuts lines, characters and the text that is looked for. -/
theorem take {bytesRead : Nat} (there : scan.offset + bytesRead ≤ content.length) :
    (scan.take reducer contains ((content.drop scan.offset).take bytesRead)).At reducer contains content := by
  have length : ((content.drop scan.offset).take bytesRead).length = bytesRead := by
    rw [List.length_take, List.length_drop]
    omega
  have whole : content.take (scan.offset + bytesRead) =
      content.take scan.offset ++ (content.drop scan.offset).take bytesRead := List.take_add
  generalize (content.drop scan.offset).take bytesRead = chunk at length whole ⊢
  have texts : textOf (content.take (scan.offset + bytesRead)) =
      textOf (content.take scan.offset) ++ (scan.decoder.decode chunk).2 := by
    rw [whole, textOf_append, at_.decoder]
  have lines : (textOf (content.take scan.offset) ++ (scan.decoder.decode chunk).2).splitOn LF =
      completeLines (textOf (content.take scan.offset)) ++ ((scan.decoder.decode chunk).2.splitOn LF).modifyHead
        (unfinishedLine (textOf (content.take scan.offset)) ++ ·) := splitOn_append _ _ _
  obtain ⟨accepted, left⟩ := @acceptLines_eq _ _ _ reducer scan.reducer scan.partial_
    ((scan.decoder.decode chunk).2.splitOn LF) (List.splitOn_ne_nil _ _)
  obtain ⟨matched, matchTail⟩ := @search_eq contains (scan.decoder.decode chunk).2 _ _ _ at_.matched at_.matchTail
  have some_ : ((scan.decoder.decode chunk).2.splitOn LF).modifyHead
      (unfinishedLine (textOf (content.take scan.offset)) ++ ·) ≠ [] := by
    simp [List.splitOn_ne_nil]
  rw [at_.partial_] at accepted left
  have offset : (scan.take reducer contains chunk).offset = scan.offset + bytesRead := congrArg (scan.offset + ·) length
  refine ⟨offset ▸ there, ?_, ?_, ?_, ?_, ?_⟩ <;> rw [offset]
  · rw [whole, TextDecoder.decode_append, ← at_.decoder]
    rfl
  · refine accepted.trans ?_
    rw [at_.reducer, ← List.foldl_append, texts, completeLines.eq_1 (_ ++ _), lines, List.dropLast_append_of_ne_nil some_]
  · refine left.trans ?_
    rw [texts, unfinishedLine.eq_1 (_ ++ _), lines, List.getLastD_eq_getLast?, List.getLastD_eq_getLast?,
      List.getLast?_append_of_ne_nil _ some_]
  · rw [texts]
    exact matched
  · rw [texts]
    exact matchTail

/-- The answer at the end of the file, after which the scan goes on as if it had not been asked. -/
theorem answer (undoes : reducer.Undoes) (ended : content.length ≤ scan.offset) (info : Info) :
    (scan.answer reducer info).1.value = fullRead reducer content ∧
      ((scan.answer reducer info).1.matched = true ↔ contains <:+: textOf content) ∧
      (scan.answer reducer info).2.At reducer contains content := by
  have all : content.take scan.offset = content := List.take_of_length_le ended
  have matched := at_.matched
  have partial_ := at_.partial_
  have state := at_.reducer
  rw [all] at matched partial_ state
  refine ⟨?_, matched, at_.within, at_.decoder, ?_, at_.partial_, at_.matched, at_.matchTail⟩
  · simp only [Scan.answer, fullRead, partial_, state, List.isEmpty_iff]
  · have undone : (scan.answer reducer info).2.reducer = scan.reducer := by
      simp only [Scan.answer]
      split
      · exact undoes.nothing _
      · exact undoes.accept _ _
    exact undone.trans at_.reducer

end Scan.At

namespace Reader

variable (reducer contains) in
structure Sound (reader : Reader Value State) : Prop where
  cached : ∀ scan, reader.cached = some scan → scan.At reducer contains reader.content
  flight : ∀ flight, reader.flight = some flight → flight.info.size = flight.opened.length ∧
    flight.opened <+: reader.content ∧ flight.scan.At reducer contains flight.opened
  answers : ∀ answer ∈ reader.answers, answer.2.value = fullRead reducer answer.1 ∧
    (answer.2.matched = true ↔ contains <:+: textOf answer.1)

variable {reader : Reader Value State}

theorem Sound.step (undoes : reducer.Undoes) (sound : reader.Sound reducer contains) {event : Event}
    (may : reader.allowed event) : (reader.step reducer contains event).Sound reducer contains := by
  cases event with
  | append bytes =>
    refine ⟨fun scan kept => (sound.cached scan kept).append bytes, fun flight flies => ?_, sound.answers⟩
    obtain ⟨size, opened, at_⟩ := sound.flight flight flies
    exact ⟨size, opened.trans (List.prefix_append _ _), at_⟩
  | opens mtimeMs tailRead prefixRead =>
    refine ⟨nofun, ?_, sound.answers⟩
    rintro _ ⟨⟩
    refine ⟨rfl, List.prefix_rfl, ?_⟩
    -- Whether or not the scan counts as replaced, it has read the content so far.
    split
    · next kept =>
      split
      · exact fresh_at _
      · exact sound.cached _ kept
    · exact fresh_at _
  | reads bytesRead =>
    refine { sound with flight := fun flight flies => ?_ }
    obtain ⟨before, flew, rfl⟩ := Option.map_eq_some_iff.mp flies
    obtain ⟨size, opened, at_⟩ := sound.flight before flew
    refine ⟨size, opened, ?_⟩
    simp only [allowed, flew, Option.any_some, Bool.and_eq_true, decide_eq_true_eq, size] at may
    have within := at_.within
    have there : before.scan.offset + bytesRead ≤ before.opened.length := by omega
    obtain ⟨more, same⟩ := opened
    rw [← same, List.drop_append_of_le_length within, List.take_append_of_le_length (by rw [List.length_drop]; omega)]
    exact at_.take there
  | ends =>
    cases flies : reader.flight with
    | none => simpa only [Reader.step, flies] using sound
    | some flight =>
      obtain ⟨size, opened, at_⟩ := sound.flight flight flies
      simp only [allowed, flies, Option.any_some, decide_eq_true_eq, size] at may
      obtain ⟨value, matched, goesOn⟩ := at_.answer undoes may flight.info
      simp only [Reader.step, flies]
      refine ⟨fun scan kept => ?_, nofun, fun answer inside => ?_⟩
      · split at kept
        · obtain rfl := Option.some.inj kept
          obtain ⟨more, same⟩ := opened
          exact same ▸ goesOn.append more
        · cases kept
      · rcases List.mem_append.mp inside with earlier | new
        · exact sound.answers answer earlier
        · rw [List.mem_singleton.mp new]
          exact ⟨value, matched⟩
  | fails => exact ⟨nofun, nofun, sound.answers⟩
  | evicts => exact { sound with cached := nofun }

/-- However short its reads, a read that is under way can come to its end. -/
theorem Sound.returns (undoes : reducer.Undoes) (sound : reader.Sound reducer contains) {flight : Flight State}
    (flies : reader.flight = some flight) : ∃ events, AllowedRun allowed (Reader.step reducer contains) reader events ∧
      ∃ answer, (events.foldl (Reader.step reducer contains) reader).answers =
        reader.answers ++ [(flight.opened, answer)] := by
  obtain ⟨rest, left⟩ : ∃ rest, flight.opened.length ≤ flight.scan.offset + rest := ⟨_, Nat.le_add_left _ _⟩
  induction rest generalizing reader flight with
  | zero =>
    have may : reader.allowed .ends := by
      simpa [allowed, flies, (sound.flight flight flies).1] using left
    refine ⟨[.ends], ⟨may, trivial⟩, (flight.scan.answer reducer flight.info).1, ?_⟩
    simp only [List.foldl_cons, List.foldl_nil, Reader.step, flies]
  | succ rest ih =>
    obtain ⟨size, ⟨more, same⟩, at_⟩ := sound.flight flight flies
    by_cases ended : flight.opened.length ≤ flight.scan.offset + rest
    · exact ih sound flies ended
    have may : reader.allowed (.reads 1) := by
      simp only [allowed, flies, Option.any_some, Bool.and_eq_true, decide_eq_true_eq]
      exact ⟨Nat.one_pos, le_min (by decide) (by omega)⟩
    have next := sound.step undoes may
    have flew : (reader.step reducer contains (.reads 1)).flight = _ := congrArg (Option.map _) flies
    have moved : (flight.scan.take reducer contains ((reader.content.drop flight.scan.offset).take 1)).offset =
        flight.scan.offset + 1 := by
      refine congrArg (flight.scan.offset + ·) ?_
      rw [List.length_take, List.length_drop, ← same, List.length_append]
      omega
    obtain ⟨events, run, answered⟩ := ih next flew (by simp only [moved]; omega)
    exact ⟨.reads 1 :: events, ⟨may, run⟩, answered⟩

/-- Every answer is that of a full read of what the file held when the read opened it, and a read can end. -/
theorem incremental_reads_full (undoes : reducer.Undoes)
    (reached : Reached (fun reader : Reader Value State => ∃ content, reader = { content }) allowed
      (step reducer contains) reader) :
    (∀ answer ∈ reader.answers, answer.2.value = fullRead reducer answer.1 ∧
      (answer.2.matched = true ↔ contains <:+: textOf answer.1)) ∧
    ∀ flight, reader.flight = some flight → ∃ events, AllowedRun allowed (step reducer contains) reader events ∧
      ∃ answer, (events.foldl (step reducer contains) reader).answers = reader.answers ++ [(flight.opened, answer)] := by
  have sound : reader.Sound reducer contains := by
    refine reached.invariant ?_ fun _ _ sound may => ?_
    · rintro _ ⟨content, rfl⟩
      exact ⟨nofun, nofun, nofun⟩
    · exact sound.step undoes may
  exact ⟨sound.answers, fun flight flies => sound.returns undoes flies⟩

end Reader

end

namespace Sample

def lines : RolloutReducer (List JsString) (List JsString) (List JsString) where
  create := []
  accept := fun lines line => lines ++ [line]
  result := id
  checkpoint := id
  restore := fun _ lines => lines

/-- A character of two bytes is cut, and so is its line. -/
def events : List Event :=
  [.append [0x61, 0xC3], .opens 0 0 0, .reads 1, .append [0xA9, 0x0A], .reads 1, .ends, .opens 1 2 1, .reads 2, .ends]

end Sample

theorem incremental_reads_full_cut :
    let reader := Sample.events.foldl (Reader.step Sample.lines [0xE9]) { content := [] }
    reader.answers.length = 2 ∧ ∀ answer ∈ reader.answers,
      answer.2.value = fullRead Sample.lines answer.1 ∧ (answer.2.matched = true ↔ [0xE9] <:+: textOf answer.1) :=
  ⟨by decide +kernel, (Reader.incremental_reads_full ⟨fun _ => rfl, fun _ _ => rfl⟩
    (Reached.run (.start ⟨[], rfl⟩) (by decide +kernel))).1⟩

end SpaceApp.Api.Rollouts
