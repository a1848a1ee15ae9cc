import Mathlib.Data.List.Nodup
import SpaceApp.Nous.HeldDispatch

/-! What a change leaves of a queue, how the texts of one pane stand, and what a tick knows of the queues it listed. -/

set_option autoImplicit false

namespace SpaceApp.Nous.HeldDispatch

def idsOf (record : Option ControlRecord) : List Nat := (itemsOf record).map (·.id)

def Edit.ids : Edit → List Nat → List Nat
  | .hold id _ _, ids => ids ++ [id]
  | .remove id, ids => ids.filter fun other => other ≠ id
  | .count _ _, ids => ids

theorem apply_ids (edit : Edit) (now : List Char) (items : List HeldText) :
    (edit.apply now items).map (·.id) = edit.ids (items.map (·.id)) := by
  cases edit with
  | hold id text priority => simp only [Edit.apply, Edit.ids, List.map_append, List.map_cons, List.map_nil]
  | remove id => simp only [Edit.apply, Edit.ids, List.filter_map, Function.comp_def]
  | count id attempts =>
    simp only [Edit.apply, Edit.ids, List.map_map]
    refine List.map_congr_left fun entry _ => ?_
    simp only [Function.comp_apply]
    split <;> rfl

section

variable {change : Change} {record : Option ControlRecord} {answer : Answer} {now : List Char}

/-- What the change is to write is made of the record, where the record still has the version it read. -/
def Change.Apt (change : Change) (record : Option ControlRecord) : Prop :=
  ∀ next version, change.writing = some (next, version) →
    version ≤ versionOf record ∧ (version = versionOf record → ∃ now, next = change.next record now)

theorem stored_same (idle : change.writes record answer = false) : change.stored record answer = record := by
  unfold Change.stored
  split
  · rfl
  · rw [idle]
    rfl

theorem stored_new (apt : change.Apt record) (writes : change.writes record answer = true) :
    ∃ now, change.stored record answer =
      some { roomId := change.target.roomId, version := versionOf record + 1, value := change.next record now } := by
  have fits := (Bool.and_eq_true _ _ ▸ writes : _ ∧ _).2
  cases at_ : change.writing with
  | none => simp [Change.fits, at_] at fits
  | some read =>
    obtain ⟨next, version⟩ := read
    have same : version = versionOf record := by simpa [Change.fits, at_] using fits
    obtain ⟨now, rfl⟩ := (apt next version at_).2 same
    refine ⟨now, ?_⟩
    simp only [Change.stored, at_, writes, if_true, same]

theorem stored_ids (apt : change.Apt record) (writes : change.writes record answer = true) :
    idsOf (change.stored record answer) = change.edit.ids (idsOf record) := by
  obtain ⟨now, stored⟩ := stored_new apt writes
  rw [stored]
  exact apply_ids change.edit now (itemsOf record)

theorem Change.Apt.outrun {other : Change} (apt : other.Apt record) (own : change.Apt record) :
    other.Apt (change.stored record answer) := by
  cases writes : change.writes record answer with
  | false =>
    rw [stored_same writes]
    exact apt
  | true =>
    obtain ⟨now, stored⟩ := stored_new own writes
    rw [stored]
    intro next version at_
    have earlier := (apt next version at_).1
    have later : versionOf (some { roomId := change.target.roomId, version := versionOf record + 1, value := change.next record now })
        = versionOf record + 1 := rfl
    exact ⟨by omega, fun same => by omega⟩

theorem proceeds_goesOn {next : Change} (goesOn : change.proceeds record answer now = .goesOn next) :
    change.writes record answer = false ∧ next.Apt record ∧ next.owner = change.owner ∧ next.target = change.target ∧
      next.edit = change.edit := by
  unfold Change.proceeds at goesOn
  split at goesOn
  · split at goesOn
    · next at_ =>
      cases goesOn
      refine ⟨?_, fun queue version writing => ?_, rfl, rfl, rfl⟩
      · simp only [Change.writes, Change.fits, at_, Option.any_none, Bool.and_false]
      · cases writing
        exact ⟨Nat.le_refl _, fun _ => ⟨now, rfl⟩⟩
    · split at goesOn
      · cases goesOn
      · next outrun =>
        split at goesOn
        · cases goesOn
          refine ⟨?_, fun queue version writing => ?_, rfl, rfl, rfl⟩
          · simp only [Change.writes, Bool.not_eq_true] at outrun ⊢
            rw [outrun, Bool.and_false]
          · cases writing
        · cases goesOn
  · cases goesOn

theorem proceeds_throws (throws : change.proceeds record answer now = .throws) (writes : change.writes record answer = true) :
    answer = .lost := by
  have both := Bool.and_eq_true _ _ ▸ writes
  cases answer with
  | answers =>
    unfold Change.proceeds at throws
    dsimp only at throws
    split at throws
    · cases throws
    · rw [if_pos both.2] at throws
      cases throws
  | fails => cases both.1
  | lost => rfl

theorem proceeds_done {queue : HeldQueue} (done : change.proceeds record answer now = .done queue) :
    change.writes record answer = true ∧ answer = .answers := by
  unfold Change.proceeds at done
  split at done
  · split at done
    · cases done
    · split at done
      · next fits =>
        refine ⟨?_, rfl⟩
        simp only [Change.writes, fits, Bool.and_true]
        rfl
      · split at done <;> cases done
  · cases done

end

/-- The first was put in before the second, or they are one. -/
def Earlier (held : List Nat) (first second : Nat) : Prop := first = second ∨ [first, second].Sublist held

theorem Earlier.append {held : List Nat} {first second : Nat} (earlier : Earlier held first second) (more : List Nat) :
    Earlier (held ++ more) first second :=
  earlier.imp id fun sublist => sublist.trans (List.sublist_append_left held more)

section

variable {held tried : List Nat} {record : Option ControlRecord} {failures : Nat → Nat} {settled : Nat → Prop} {paneId : String}

/-- The texts of a pane: those that are through, and behind them its queue; only its head is ever tried. -/
structure Line (held tried : List Nat) (record : Option ControlRecord) (failures : Nat → Nat) (settled : Nat → Prop)
    (paneId : String) : Prop where
  distinct : held.Nodup
  pane : ∀ found, record = some found → found.value.paneId = paneId
  counted : ∀ item ∈ itemsOf record, item.attempts ≤ failures item.id
  past : ∃ past, held = past ++ idsOf record ∧ (∀ id ∈ tried, id ∈ past ∨ (idsOf record).head? = some id) ∧
    ∀ id ∈ past, settled id
  ordered : tried.Pairwise (Earlier held)

theorem Line.settle (line : Line held tried record failures settled paneId) {settled_ : Nat → Prop} {failures_ : Nat → Nat}
    (settles : ∀ id, settled id → settled_ id) (fails : ∀ id, failures id ≤ failures_ id) :
    Line held tried record failures_ settled_ paneId := by
  obtain ⟨past, whole, at_, done⟩ := line.past
  exact { line with
      counted := fun item among => Nat.le_trans (line.counted item among) (fails item.id),
      past := ⟨past, whole, at_, fun id among => settles id (done id among)⟩ }

theorem head_append {ids more : List Nat} {id : Nat} (head : ids.head? = some id) : (ids ++ more).head? = some id := by
  rw [List.head?_append, head]
  rfl

section
variable (line : Line held tried record failures settled paneId) {after : Option ControlRecord}

include line

theorem Line.hold (item : HeldText)
    (fresh : item.id ∉ held) (uncounted : item.attempts = 0) (items : itemsOf after = itemsOf record ++ [item])
    (pane : ∀ found, after = some found → found.value.paneId = paneId) :
    Line (held ++ [item.id]) tried after failures settled paneId := by
  obtain ⟨past, whole, at_, done⟩ := line.past
  have ids : idsOf after = idsOf record ++ [item.id] := by
    simp only [idsOf, items, List.map_append, List.map_cons, List.map_nil]
  refine ⟨?_, pane, fun other among => ?_, ⟨past, ?_, fun id among => ?_, done⟩, ?_⟩
  · exact List.nodup_append.mpr ⟨line.distinct, List.nodup_singleton item.id, by
      rintro id among _ last rfl
      exact fresh ((List.mem_singleton.mp last) ▸ among)⟩
  · rw [items] at among
    rcases List.mem_append.mp among with earlier | last
    · exact line.counted other earlier
    · rw [List.mem_singleton.mp last, uncounted]
      exact Nat.zero_le _
  · rw [ids, whole, List.append_assoc]
  · rw [ids]
    exact (at_ id among).imp_right head_append
  · exact line.ordered.imp fun earlier => earlier.append [item.id]

theorem Line.remove {id : Nat} (head : (idsOf record).head? = some id) (through : settled id)
    (items : itemsOf after = (itemsOf record).filter fun item => item.id ≠ id)
    (pane : ∀ found, after = some found → found.value.paneId = paneId) :
    Line held tried after failures settled paneId := by
  obtain ⟨past, whole, at_, done⟩ := line.past
  obtain ⟨rest, queue⟩ : ∃ rest, idsOf record = id :: rest := List.head?_eq_some_iff.mp head
  have distinct := line.distinct
  rw [whole, queue] at distinct
  have others : id ∉ rest := (List.nodup_cons.mp (List.nodup_append.mp distinct).2.1).1
  have ids : idsOf after = rest := by
    calc idsOf after = (idsOf record).filter fun other => other ≠ id := by
          simp only [idsOf, items, List.filter_map, Function.comp_def]
      _ = rest.filter fun other => other ≠ id := by
          rw [queue]
          simp
      _ = rest := List.filter_eq_self.mpr fun other among => by
          simpa using fun same : other = id => others (same ▸ among)
  refine ⟨line.distinct, pane, fun item among => ?_, ⟨past ++ [id], ?_, fun other among => ?_, fun other among => ?_⟩, line.ordered⟩
  · rw [items] at among
    exact line.counted item (List.mem_filter.mp among).1
  · rw [ids, whole, queue, List.append_assoc]
    rfl
  · refine .inl (List.mem_append.mpr ?_)
    rcases at_ other among with before | heads
    · exact .inl before
    · rw [head] at heads
      cases heads
      exact .inr List.mem_cons_self
  · rcases List.mem_append.mp among with before | last
    · exact done other before
    · rw [List.mem_singleton.mp last]
      exact through

theorem Line.count {id attempts : Nat} (failed : attempts ≤ failures id)
    (items : itemsOf after = (itemsOf record).map fun item => if item.id = id then { item with attempts } else item)
    (pane : ∀ found, after = some found → found.value.paneId = paneId) :
    Line held tried after failures settled paneId := by
  have ids : idsOf after = idsOf record := by
    simp only [idsOf, items, List.map_map]
    refine List.map_congr_left fun item _ => ?_
    simp only [Function.comp_apply]
    split <;> rfl
  refine ⟨line.distinct, pane, fun item among => ?_, ids ▸ line.past, line.ordered⟩
  rw [items] at among
  obtain ⟨before, earlier, rfl⟩ := List.mem_map.mp among
  split
  · next same =>
    rw [same]
    exact failed
  · exact line.counted before earlier

end

theorem Line.tries (line : Line held tried record failures settled paneId) {id : Nat}
    (head : (idsOf record).head? = some id) : Line held (tried ++ [id]) record failures settled paneId := by
  obtain ⟨past, whole, at_, done⟩ := line.past
  obtain ⟨rest, queue⟩ : ∃ rest, idsOf record = id :: rest := List.head?_eq_some_iff.mp head
  refine { line with past := ⟨past, whole, fun other among => ?_, done⟩, ordered := ?_ }
  · rcases List.mem_append.mp among with before | last
    · exact at_ other before
    · rw [List.mem_singleton.mp last]
      exact .inr head
  · refine List.pairwise_append.mpr ⟨line.ordered, List.pairwise_singleton _ _, fun first among second last => ?_⟩
    rw [List.mem_singleton.mp last]
    rcases at_ first among with before | heads
    · refine .inr ?_
      rw [whole, queue]
      exact (List.singleton_sublist.mpr before).append (List.singleton_sublist.mpr List.mem_cons_self)
    · rw [head] at heads
      cases heads
      exact .inl rfl

end

namespace World

variable (world : World) (owner paneId : String) (id : Nat)

def tried : List Nat := (world.tries.filter fun try_ => try_.owner = owner && try_.paneId = paneId).map (·.id)

def arrivals : List Nat :=
  (world.tries.filter fun try_ => (try_.owner = owner && try_.paneId = paneId) && try_.delivery.arrived).map (·.id)

def failures : Nat :=
  (world.tries.filter fun try_ => (try_.owner = owner && try_.paneId = paneId) && (try_.id = id && try_.delivery ≠ .sent)).length

/-- Nous was told that the text could not be delivered. -/
def Told : Prop := ∃ notice ∈ world.inbox, notice.owner = owner ∧ notice.key = .heldFailed id

/-- The text has left the queue, and its notice is to be written next. -/
def Noticing : Prop := ∃ tick notice, world.tick = some tick ∧ tick.stage = .noticing owner paneId notice id

/-- The text reached its pane, or was given up after its tries. -/
def Settled : Prop :=
  id ∈ world.arrivals owner paneId ∨
    HELD_MAX_ATTEMPTS ≤ world.failures owner paneId id ∧ (world.Told owner id ∨ world.Noticing owner paneId id)

end World

theorem arrivals_sublist (world : World) (owner paneId : String) :
    (world.arrivals owner paneId).Sublist (world.tried owner paneId) := by
  refine List.Sublist.map _ ?_
  rw [← List.filter_filter]
  exact List.filter_sublist.filter _

section

variable (records : String → String → Option ControlRecord) (failures : String → String → Nat → Nat)
  (arrivals : String → String → List Nat)

def keyOf (entry : String × HeldQueue) : String × String := (entry.1, entry.2.paneId)

/-- Since the queue was listed texts were only put in behind it. -/
structure Listed (entry : String × HeldQueue) : Prop where
  front : ∃ behind, idsOf (records entry.1 entry.2.paneId) = entry.2.items.map (·.id) ++ behind
  counted : ∀ item ∈ entry.2.items, item.attempts ≤ failures entry.1 entry.2.paneId item.id

structure Waiting (queues : List (String × HeldQueue)) : Prop where
  listed : ∀ entry ∈ queues, Listed records failures entry
  apart : (queues.map keyOf).Nodup

structure Changing (owner : String) (queue : HeldQueue) (item : HeldText) (error : Option (List Char)) (change : Change) :
    Prop where
  owns : change.owner = owner
  pane : change.target.paneId = queue.paneId
  edit : change.edit = afterTry item error
  apt : change.Apt (records owner queue.paneId)
  head : (idsOf (records owner queue.paneId)).head? = some item.id
  sent : error = none → item.id ∈ arrivals owner queue.paneId
  failed : error ≠ none → item.attempts + 1 ≤ failures owner queue.paneId item.id

def StageOk (rest : List (String × HeldQueue)) : Stage → Prop
  | .levelling queues => Waiting records failures queues
  | .delivering owner queue item =>
    (idsOf (records owner queue.paneId)).head? = some item.id ∧ item.attempts ≤ failures owner queue.paneId item.id ∧
      (owner, queue.paneId) ∉ rest.map keyOf
  | .changing owner queue item error change =>
    Changing records failures arrivals owner queue item error change ∧ (owner, queue.paneId) ∉ rest.map keyOf
  | .noticing owner _ notice id => notice.owner = owner ∧ notice.key = .heldFailed id
  | _ => True

structure TickOk (tick : Tick) : Prop where
  waiting : Waiting records failures tick.rest
  stage : StageOk records failures arrivals tick.rest tick.stage

end

section

variable {records records_ : String → String → Option ControlRecord} {failures failures_ : String → String → Nat → Nat}
  {arrivals arrivals_ : String → String → List Nat}

theorem Waiting.mono {queues : List (String × HeldQueue)} (waiting : Waiting records failures queues)
    (grows : ∀ entry ∈ queues, ∃ more, idsOf (records_ entry.1 entry.2.paneId) = idsOf (records entry.1 entry.2.paneId) ++ more)
    (fails : ∀ owner paneId id, failures owner paneId id ≤ failures_ owner paneId id) : Waiting records_ failures_ queues := by
  refine ⟨fun entry among => ?_, waiting.apart⟩
  have listed := waiting.listed entry among
  obtain ⟨behind, front⟩ := listed.front
  obtain ⟨more, grown⟩ := grows entry among
  refine ⟨⟨behind ++ more, by rw [grown, front, List.append_assoc]⟩, fun item item_ => ?_⟩
  exact Nat.le_trans (listed.counted item item_) (fails entry.1 entry.2.paneId item.id)

theorem Waiting.tail {entry : String × HeldQueue} {rest : List (String × HeldQueue)}
    (waiting : Waiting records failures (entry :: rest)) : Waiting records failures rest :=
  ⟨fun other among => waiting.listed other (List.mem_cons_of_mem entry among), (List.nodup_cons.mp waiting.apart).2⟩

theorem TickOk.mono {tick : Tick} (ok : TickOk records failures arrivals tick)
    (grows : ∀ owner paneId, ∃ more, idsOf (records_ owner paneId) = idsOf (records owner paneId) ++ more)
    (fails : ∀ owner paneId id, failures owner paneId id ≤ failures_ owner paneId id)
    (arrives : ∀ owner paneId, arrivals owner paneId ⊆ arrivals_ owner paneId)
    (apt : ∀ owner paneId (change : Change), change.Apt (records owner paneId) → change.Apt (records_ owner paneId)) :
    TickOk records_ failures_ arrivals_ tick := by
  refine ⟨ok.waiting.mono (fun entry _ => grows entry.1 entry.2.paneId) fails, ?_⟩
  have heads (owner paneId : String) (id : Nat) (head : (idsOf (records owner paneId)).head? = some id) :
      (idsOf (records_ owner paneId)).head? = some id := by
    obtain ⟨more, grown⟩ := grows owner paneId
    rw [grown]
    exact head_append head
  have stage := ok.stage
  cases at_ : tick.stage with
  | levelling queues =>
    rw [at_] at stage
    exact Waiting.mono stage (fun entry _ => grows entry.1 entry.2.paneId) fails
  | delivering owner queue item =>
    rw [at_] at stage
    obtain ⟨head, counted, apart⟩ := stage
    exact ⟨heads owner queue.paneId item.id head, Nat.le_trans counted (fails owner queue.paneId item.id), apart⟩
  | changing owner queue item error change =>
    rw [at_] at stage
    obtain ⟨changing, apart⟩ := stage
    exact ⟨{
      __ := changing
      apt := apt owner queue.paneId change changing.apt
      head := heads owner queue.paneId item.id changing.head
      sent := fun sent => arrives owner queue.paneId (changing.sent sent)
      failed := fun failed => Nat.le_trans (changing.failed failed) (fails owner queue.paneId item.id) }, apart⟩
  | noticing owner paneId notice id =>
    rw [at_] at stage
    exact stage
  | listing => trivial
  | telling delivered => trivial

/-- The queue that comes next has its oldest text in front. -/
theorem next_ok (tick : Tick) {queues : List (String × HeldQueue)} (waiting : Waiting records failures queues) {after : Tick}
    (next : tick.next queues = some after) : TickOk records failures arrivals after := by
  induction queues with
  | nil =>
    unfold Tick.next at next
    split at next
    · cases next
    · cases next
      exact ⟨waiting, trivial⟩
  | cons entry rest ih =>
    obtain ⟨owner, queue⟩ := entry
    unfold Tick.next at next
    split at next
    · exact ih waiting.tail next
    · next item behind items =>
      split at next
      · cases next
        have listed := waiting.listed (owner, queue) List.mem_cons_self
        obtain ⟨more, front⟩ := listed.front
        refine ⟨waiting.tail, ?_, listed.counted item (by simp only [items, List.mem_cons_self]), ?_⟩
        · simp only [items] at front
          rw [front]
          rfl
        · exact (List.nodup_cons.mp waiting.apart).1
      · exact ih waiting.tail next

end

end SpaceApp.Nous.HeldDispatch
