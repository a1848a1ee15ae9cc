import SpaceApp.Gateway.Compression.Pool
import Mathlib.Algebra.Order.Ring.Rat
import Mathlib.Tactic.Linarith

/-! What the compression pool's log may say, and what its pump keeps: order in the log, and no job forgotten. -/

set_option autoImplicit false

namespace SpaceApp.Gateway.Compression

section

variable {R : Type}

/-- A worker computed this result for the very text and options of the job. -/
def ComputedFor (past : List (Happening R)) (id : Nat) (result : R) : Prop :=
  ∃ job now worker, .accepted job now ∈ past ∧ job.id = id ∧ .computed worker job.posting (.ok result) ∈ past

def Allowed (past : List (Happening R)) : Happening R → Prop
  | .refused deadline now => .closed ∈ past ∨ deadline ≤ now
  | .accepted job now => .closed ∉ past ∧ now < job.deadline ∧ ∀ other at_, .accepted other at_ ∈ past → other.id ≠ job.id
  | .posted worker posting => .ready worker ∈ past ∧ (∃ job now, .accepted job now ∈ past ∧ job.posting = posting) ∧
      (∀ other earlier, .posted other earlier ∈ past → earlier.id ≠ posting.id) ∧
      ∀ earlier, .posted worker earlier ∈ past → ∃ outcome, .computed worker earlier outcome ∈ past
  | .computed worker posting _ => .posted worker posting ∈ past ∧ ∀ outcome, .computed worker posting outcome ∉ past
  | .settled id value => (∃ job now, .accepted job now ∈ past ∧ job.id = id) ∧ (∀ earlier, .settled id earlier ∉ past) ∧
      ∀ result, value = some result → ComputedFor past id result
  | .late id result => .settled id none ∈ past ∧ (∀ earlier, .late id earlier ∉ past) ∧ ComputedFor past id result
  | .ready _ | .closed => True

def Orderly (log : List (Happening R)) : Prop :=
  ∀ past next rest, log = past ++ next :: rest → Allowed past next

section
variable {log : List (Happening R)}

theorem Orderly.snoc (orderly : Orderly log) {next : Happening R} (may : Allowed log next) :
    Orderly (log ++ [next]) := by
  intro past other rest same
  rcases List.eq_nil_or_concat rest with rfl | ⟨front, last, rfl⟩
  · obtain ⟨rfl, last⟩ := List.append_inj' same rfl
    obtain rfl : next = other := by simpa using last
    exact may
  · have shape : log ++ [next] = (past ++ other :: front) ++ [last] := by simpa using same
    exact orderly past other front (List.append_inj' shape rfl).1

theorem Orderly.allowed (orderly : Orderly log) {next : Happening R} (inside : next ∈ log) :
    ∃ past, past ⊆ log ∧ Allowed past next := by
  obtain ⟨past, rest, rfl⟩ := List.append_of_mem inside
  exact ⟨past, List.subset_append_left _ _, orderly past next rest rfl⟩

theorem Orderly.posted_accepted (orderly : Orderly log) {worker : Nat} {posting : Posting}
    (posted : .posted worker posting ∈ log) : ∃ job now, .accepted job now ∈ log ∧ job.posting = posting := by
  obtain ⟨past, before, may⟩ := orderly.allowed posted
  obtain ⟨-, ⟨job, now, accepted, same⟩, -⟩ := may
  exact ⟨job, now, before accepted, same⟩

theorem Orderly.computed_posted (orderly : Orderly log) {worker : Nat} {posting : Posting}
    {outcome : Except String R} (computed : .computed worker posting outcome ∈ log) : .posted worker posting ∈ log := by
  obtain ⟨past, before, may⟩ := orderly.allowed computed
  exact before may.1

theorem mem_order {first second : Happening R} (left : first ∈ log) (right : second ∈ log) (apart : first ≠ second) :
    (∃ past rest, log = past ++ second :: rest ∧ first ∈ past) ∨ ∃ past rest, log = past ++ first :: rest ∧ second ∈ past := by
  obtain ⟨past, rest, rfl⟩ := List.append_of_mem left
  rcases List.mem_append.mp right with before | after
  · exact .inr ⟨past, rest, rfl, before⟩
  · rcases List.mem_cons.mp after with same | later
    · exact absurd same.symm apart
    · obtain ⟨middle, tail, rfl⟩ := List.append_of_mem later
      exact .inl ⟨past ++ first :: middle, tail, by simp, by simp⟩

theorem Orderly.accepted_unique (orderly : Orderly log) {first second : Job} {now later : ℚ}
    (left : .accepted first now ∈ log) (right : .accepted second later ∈ log) (same : first.id = second.id) :
    first = second := by
  by_contra apart
  rcases mem_order left right (by simp [apart]) with ⟨past, rest, rfl, before⟩ | ⟨past, rest, rfl, before⟩
  · exact (orderly _ _ _ rfl).2.2 first now before same
  · exact (orderly _ _ _ rfl).2.2 second later before same.symm

theorem Orderly.posted_unique (orderly : Orderly log) {worker other : Nat}
    {posting second : Posting} (left : .posted worker posting ∈ log) (right : .posted other second ∈ log)
    (same : posting.id = second.id) : worker = other ∧ posting = second := by
  by_contra apart
  rcases mem_order left right (by simpa using apart) with ⟨past, rest, rfl, before⟩ | ⟨past, rest, rfl, before⟩
  · exact (orderly _ _ _ rfl).2.2.1 worker posting before same
  · exact (orderly _ _ _ rfl).2.2.1 other second before same.symm

end

def dones (outbox : List (Message R)) : Nat :=
  outbox.countP fun message => match message with
    | .ready => false
    | .done _ _ => true

structure SlotSound (log : List (Happening R)) (worker : Nat) (slot : Slot R) : Prop where
  ready : slot.ready = true → .ready worker ∈ log
  posted : ∀ posting, .posted worker posting ∈ log → posting ∈ slot.inbox ∨ ∃ outcome, .computed worker posting outcome ∈ log
  inbox : ∀ posting ∈ slot.inbox, .posted worker posting ∈ log ∧ ∀ outcome, .computed worker posting outcome ∉ log
  outbox : ∀ posting outcome, .done posting outcome ∈ slot.outbox → .computed worker posting outcome ∈ log
  one : slot.inbox.length + dones slot.outbox ≤ if slot.busy then 1 else 0

structure RunningSound (log : List (Happening R)) (entry : Running) : Prop where
  accepted : ∃ now, .accepted entry.job now ∈ log
  posted : .posted entry.slot entry.job.posting ∈ log
  settled : ∀ value, .settled entry.job.id value ∈ log → value = none
  late : ∀ result, .late entry.job.id result ∉ log

structure Sound (pool : Pool R) : Prop where
  orderly : Orderly pool.log
  flags : ∀ id, id ∈ pool.settledJobs ↔ ∃ value, .settled id value ∈ pool.log
  ids : ∀ job now, .accepted job now ∈ pool.log → job.id < pool.nextId
  closed : pool.closed = true ↔ .closed ∈ pool.log
  queued : ∀ job ∈ pool.queue, (∃ now, .accepted job now ∈ pool.log) ∧
    ∀ worker posting, .posted worker posting ∈ pool.log → posting.id ≠ job.id
  queueOnce : (pool.queue.map Job.id).Nodup
  running : ∀ entry ∈ pool.running, RunningSound pool.log entry
  runningOnce : (pool.running.map fun entry => entry.job.id).Nodup
  workers : ∀ worker slot, pool.workers[worker]? = some slot → SlotSound pool.log worker slot
  spawned : ∀ worker posting, .posted worker posting ∈ pool.log → worker < pool.workers.length

/-- A job that is not settled waits for its expiry or runs under its timer, but for those named. -/
def KeptBut (pool : Pool R) (missing : Nat → Prop) : Prop :=
  ∀ job now, .accepted job now ∈ pool.log → missing job.id ∨ job.id ∈ pool.settledJobs ∨
    (job ∈ pool.queue ∧ ∃ due, (job.id, due) ∈ pool.expiries ∧ due ≤ job.deadline + 1) ∨
    ∃ entry ∈ pool.running, entry.job = job ∧ ∃ due, entry.soft = some due ∧ due ≤ job.deadline + 1

variable {pool : Pool R}

theorem SlotSound.grow {log : List (Happening R)} {worker : Nat} {slot : Slot R} (sound : SlotSound log worker slot)
    {next : Happening R} (unposted : ∀ posting, next ≠ .posted worker posting)
    (uncomputed : ∀ posting outcome, next ≠ .computed worker posting outcome) : SlotSound (log ++ [next]) worker slot where
  ready ready := List.mem_append_left _ (sound.ready ready)
  posted posting there := by
    rcases List.mem_append.mp there with before | new
    · rcases sound.posted posting before with held | ⟨outcome, computed⟩
      · exact .inl held
      · exact .inr ⟨outcome, List.mem_append_left _ computed⟩
    · exact absurd (List.mem_singleton.mp new).symm (unposted posting)
  inbox posting held := by
    obtain ⟨posted, fresh⟩ := sound.inbox posting held
    refine ⟨List.mem_append_left _ posted, fun outcome there => ?_⟩
    rcases List.mem_append.mp there with before | new
    · exact fresh outcome before
    · exact uncomputed posting outcome (List.mem_singleton.mp new).symm
  outbox posting outcome held := List.mem_append_left _ (sound.outbox posting outcome held)
  one := sound.one

theorem RunningSound.grow {log : List (Happening R)} {entry : Running} (sound : RunningSound log entry)
    {next : Happening R} (unsettled : ∀ result, next ≠ .settled entry.job.id (some result))
    (timely : ∀ result, next ≠ .late entry.job.id result) : RunningSound (log ++ [next]) entry where
  accepted := by
    obtain ⟨now, accepted⟩ := sound.accepted
    exact ⟨now, List.mem_append_left _ accepted⟩
  posted := List.mem_append_left _ sound.posted
  settled value there := by
    rcases List.mem_append.mp there with before | new
    · exact sound.settled value before
    · cases value with
      | none => rfl
      | some result => exact absurd (List.mem_singleton.mp new).symm (unsettled result)
  late result there := by
    rcases List.mem_append.mp there with before | new
    · exact sound.late result before
    · exact timely result (List.mem_singleton.mp new).symm

theorem Sound.note (sound : Sound pool) {next : Happening R} (may : Allowed pool.log next) {settledJobs : List Nat}
    (flags : ∀ id, id ∈ settledJobs ↔ ∃ value, .settled id value ∈ pool.log ++ [next])
    (plain : (∀ job now, next ≠ .accepted job now) ∧ (∀ worker posting, next ≠ .posted worker posting) ∧
      (∀ worker posting outcome, next ≠ .computed worker posting outcome) ∧ next ≠ .closed)
    (unsettled : ∀ entry ∈ pool.running, (∀ result, next ≠ .settled entry.job.id (some result)) ∧
      ∀ result, next ≠ .late entry.job.id result) :
    Sound { pool with settledJobs := settledJobs, log := pool.log ++ [next] } where
  orderly := sound.orderly.snoc may
  flags := flags
  ids job now there := by
    rcases List.mem_append.mp there with before | new
    · exact sound.ids job now before
    · exact absurd (List.mem_singleton.mp new).symm (plain.1 job now)
  closed := by
    rw [sound.closed, List.mem_append, List.mem_singleton]
    exact ⟨.inl, fun either => either.elim (fun before => before) fun new => absurd new.symm plain.2.2.2⟩
  queued job inside := by
    obtain ⟨⟨now, accepted⟩, unposted⟩ := sound.queued job inside
    refine ⟨⟨now, List.mem_append_left _ accepted⟩, fun worker posting there => ?_⟩
    rcases List.mem_append.mp there with before | new
    · exact unposted worker posting before
    · exact absurd (List.mem_singleton.mp new).symm (plain.2.1 worker posting)
  __ := sound
  running entry inside := (sound.running entry inside).grow (unsettled entry inside).1 (unsettled entry inside).2
  workers worker slot found := (sound.workers worker slot found).grow (plain.2.1 worker) (plain.2.2.1 worker)
  spawned worker posting there := by
    rcases List.mem_append.mp there with before | new
    · exact sound.spawned worker posting before
    · exact absurd (List.mem_singleton.mp new).symm (plain.2.1 worker posting)

theorem settle_frame (pool : Pool R) (id : Nat) (value : Option R) :
    ∃ flags new, settle pool id value = { pool with settledJobs := flags, log := pool.log ++ new } ∧
      (∀ other, other ∈ flags ↔ other ∈ pool.settledJobs ∨ other = id) ∧
      (∀ next ∈ new, next = .settled id value) := by
  unfold settle
  split
  · next held =>
    refine ⟨pool.settledJobs, [], by simp, fun other => ?_, by simp⟩
    exact ⟨.inl, fun either => either.elim (fun before => before) fun same => same ▸ held⟩
  · exact ⟨_, _, rfl, by simp, by simp⟩

theorem Sound.settle (sound : Sound pool) {id : Nat} (known : ∃ job now, .accepted job now ∈ pool.log ∧ job.id = id)
    {value : Option R} (computed : ∀ result, value = some result → ComputedFor pool.log id result)
    (idle : value.isSome → ∀ entry ∈ pool.running, entry.job.id ≠ id) : Sound (settle pool id value) := by
  unfold Compression.settle
  split
  · exact sound
  · next fresh =>
    have unsettled : ∀ earlier, .settled id earlier ∉ pool.log :=
      fun earlier there => fresh ((sound.flags id).mpr ⟨earlier, there⟩)
    have may : Allowed pool.log (.settled id value) := ⟨known, unsettled, computed⟩
    refine sound.note may (fun other => ?_) (by simp) fun entry inside => ⟨?_, by simp⟩
    · rw [List.mem_append, sound.flags]
      constructor
      · rintro (⟨earlier, there⟩ | new)
        · exact ⟨earlier, List.mem_append_left _ there⟩
        · exact ⟨value, by simp [List.mem_singleton.mp new]⟩
      · rintro ⟨earlier, there⟩
        rcases List.mem_append.mp there with before | new
        · exact .inl ⟨earlier, before⟩
        · simp at new
          exact .inr (by simp [new.1])
    · rintro result same
      simp only [Happening.settled.injEq] at same
      exact idle (by simp [same.2]) entry inside same.1.symm

theorem KeptBut.settle {missing : Nat → Prop} (kept : KeptBut pool missing) (id : Nat) (value : Option R) :
    KeptBut (settle pool id value) fun other => missing other ∧ other ≠ id := by
  obtain ⟨flags, new, same, members, entries⟩ := settle_frame pool id value
  rw [same]
  intro job now there
  by_cases own : job.id = id
  · exact .inr (.inl ((members job.id).mpr (.inr own)))
  · rcases List.mem_append.mp there with before | added
    · rcases kept job now before with gone | settled | rest
      · exact .inl ⟨gone, own⟩
      · exact .inr (.inl ((members job.id).mpr (.inl settled)))
      · exact .inr (.inr rest)
    · cases entries _ added

theorem KeptBut.weaken {missing more : Nat → Prop} (kept : KeptBut pool missing) (wider : ∀ id, missing id → more id) :
    KeptBut pool more :=
  fun job now there => (kept job now there).imp_left (wider job.id)

theorem Sound.dequeue (sound : Sound pool) {queue : List Job} (fewer : queue.Sublist pool.queue) :
    Sound { pool with queue := queue } := {
  sound with
  queued := fun job inside => sound.queued job (fewer.subset inside)
  queueOnce := (fewer.map Job.id).nodup sound.queueOnce }

theorem Sound.unqueued (sound : Sound pool) {job : Job} {rest : List Job} (queue : pool.queue = job :: rest) :
    ∀ other ∈ rest, other.id ≠ job.id := by
  intro other inside same
  have once := sound.queueOnce
  rw [queue, List.map_cons, List.nodup_cons] at once
  exact once.1 (List.mem_map.mpr ⟨other, inside, same⟩)

theorem KeptBut.shift {missing : Nat → Prop} (kept : KeptBut pool missing) {job : Job} {rest : List Job}
    (queue : pool.queue = job :: rest) : KeptBut { pool with queue := rest } fun id => missing id ∨ id = job.id := by
  intro other now there
  rcases kept other now there with gone | settled | ⟨inside, timed⟩ | running
  · exact .inl (.inl gone)
  · exact .inr (.inl settled)
  · rw [queue] at inside
    rcases List.mem_cons.mp inside with rfl | later
    · exact .inl (.inr rfl)
    · exact .inr (.inr (.inl ⟨later, timed⟩))
  · exact .inr (.inr (.inr running))

structure Untouched (pool after : Pool R) : Prop where
  workers : after.workers = pool.workers
  slots : after.slots = pool.slots
  closed : after.closed = pool.closed
  running : after.running = pool.running
  log : pool.log ⊆ after.log
  posted : ∀ worker posting, .posted worker posting ∈ after.log → .posted worker posting ∈ pool.log

theorem nextJob_untouched (now : ℚ) (queue : List Job) (pool : Pool R) : Untouched pool (nextJob now queue pool).1 := by
  induction queue generalizing pool with
  | nil => exact ⟨rfl, rfl, rfl, rfl, List.Subset.refl _, fun _ _ there => there⟩
  | cons job rest ih =>
    simp only [nextJob]
    split
    · have later := ih (settle { pool with queue := rest } job.id none)
      obtain ⟨flags, new, same, -, entries⟩ := settle_frame { pool with queue := rest } job.id none
      rw [same] at later ⊢
      refine { later with
          log := fun next there => later.log (List.mem_append_left _ there), posted := fun worker posting there => ?_ }
      rcases List.mem_append.mp (later.posted worker posting there) with before | added
      · exact before
      · cases entries _ added
    · exact ⟨rfl, rfl, rfl, rfl, List.Subset.refl _, fun _ _ there => there⟩

/-- The job that was taken from the queue and is not yet given to a worker. -/
structure Taken (now : ℚ) (pool : Pool R) (job : Job) : Prop where
  accepted : ∃ at_, .accepted job at_ ∈ pool.log
  fresh : job.id ∉ pool.settledJobs
  timely : now < job.deadline
  unposted : ∀ worker posting, .posted worker posting ∈ pool.log → posting.id ≠ job.id
  apart : ∀ other ∈ pool.queue, other.id ≠ job.id
  kept : KeptBut pool fun id => id = job.id

theorem nextJob_sound (now : ℚ) (queue : List Job) {pool after : Pool R} {found : Option Job}
    (shifts : nextJob now queue pool = (after, found)) (same : pool.queue = queue) (sound : Sound pool)
    (kept : KeptBut pool fun _ => False) :
    Sound after ∧ (found = none → KeptBut after fun _ => False) ∧ ∀ job, found = some job → Taken now after job := by
  induction queue generalizing pool with
  | nil =>
    cases shifts
    exact ⟨sound, fun _ => kept, fun _ none_ => by cases none_⟩
  | cons job rest ih =>
    have fewer : rest.Sublist pool.queue := same ▸ List.sublist_cons_self job rest
    have shifted := sound.dequeue fewer
    have waiting := sound.queued job (by simp [same])
    have left := kept.shift same
    rw [nextJob] at shifts
    split at shifts
    · obtain ⟨at_, accepted⟩ := waiting.1
      have settled : Sound (settle { pool with queue := rest } job.id none) :=
        shifted.settle ⟨job, at_, accepted, rfl⟩ (by simp) (by simp)
      refine ih shifts ?_ settled ?_
      · obtain ⟨flags, new, frame, -⟩ := settle_frame { pool with queue := rest } job.id none
        rw [frame]
      · refine (left.settle job.id none).weaken ?_
        rintro id ⟨gone | rfl, apart⟩
        · exact gone
        · exact apart rfl
    · next runs =>
      simp only [not_or, not_le] at runs
      cases shifts
      refine ⟨shifted, nofun, fun taken same_ => ?_⟩
      cases same_
      exact ⟨waiting.1, runs.1, runs.2, waiting.2, sound.unqueued same, left.weaken (by simp)⟩

theorem Sound.assign (sound : Sound pool) {now : ℚ} {worker : Nat} {slot : Slot R} {job : Job}
    (found : pool.workers[worker]? = some slot) (free : slot.busy = false) (ready : slot.ready = true)
    (taken : Taken now pool job) : Sound (assign pool now worker slot job) := by
  have own := sound.workers worker slot found
  obtain ⟨accepted, fresh, -, unposted, apart, -⟩ := taken
  have empty : slot.inbox = [] ∧ dones slot.outbox = 0 := by
    have one := own.one
    simp only [free, Bool.false_eq_true, if_false] at one
    exact ⟨List.length_eq_zero_iff.mp (by omega), by omega⟩
  have idle : ∀ entry ∈ pool.running, entry.job.id ≠ job.id := by
    intro entry inside same
    exact unposted _ _ (sound.running entry inside).posted same
  have may : Allowed pool.log (.posted worker job.posting) := by
    obtain ⟨at_, accepted⟩ := accepted
    refine ⟨own.ready ready, ⟨job, at_, accepted, rfl⟩, unposted, fun earlier posted => ?_⟩
    rcases own.posted earlier posted with held | computed
    · simp [empty.1] at held
    · exact computed
  have uncomputed : ∀ outcome, .computed worker job.posting outcome ∉ pool.log :=
    fun outcome computed => unposted _ _ (sound.orderly.computed_posted computed) rfl
  exact {
    orderly := sound.orderly.snoc may
    flags := fun id => by simp [Compression.assign, setSlot, sound.flags]
    ids := fun other at_ there => sound.ids other at_ (by simpa [Compression.assign] using there)
    closed := by simpa [Compression.assign, setSlot] using sound.closed
    queued := fun other inside => by
      obtain ⟨⟨at_, before⟩, posted⟩ := sound.queued other inside
      refine ⟨⟨at_, List.mem_append_left _ before⟩, fun who posting there => ?_⟩
      rcases List.mem_append.mp there with old | new
      · exact posted who posting old
      · simp at new
        rw [new.2]
        exact (apart other inside).symm
    queueOnce := sound.queueOnce
    running := fun entry inside => by
      rcases List.mem_append.mp inside with old | new
      · exact (sound.running entry old).grow (by simp) (by simp)
      · obtain rfl := List.mem_singleton.mp new
        obtain ⟨at_, before⟩ := accepted
        exact {
          accepted := ⟨at_, List.mem_append_left _ before⟩
          posted := by simp [Compression.assign]
          settled := fun value there => by
            have earlier : .settled job.id value ∈ pool.log := by simpa [Compression.assign] using there
            exact absurd ((sound.flags job.id).mpr ⟨value, earlier⟩) fresh
          late := fun result there => by
            have earlier : .late job.id result ∈ pool.log := by simpa [Compression.assign] using there
            obtain ⟨past, before, may⟩ := sound.orderly.allowed earlier
            exact fresh ((sound.flags job.id).mpr ⟨none, before may.1⟩) }
    runningOnce := by
      simp only [Compression.assign, setSlot, List.map_append, List.map_cons, List.map_nil]
      rw [List.nodup_append]
      refine ⟨sound.runningOnce, by simp, ?_⟩
      intro id there other same
      obtain ⟨entry, inside, rfl⟩ := List.mem_map.mp there
      simp at same
      exact same ▸ idle entry inside
    workers := fun other record there => by
      by_cases mine : other = worker
      · subst mine
        have inside := (List.getElem?_eq_some_iff.mp found).1
        obtain rfl : { slot with busy := true, inbox := slot.inbox ++ [job.posting] } = record := by
          simpa [Compression.assign, setSlot, inside] using there
        exact {
          ready := fun ready => List.mem_append_left _ (own.ready ready)
          posted := fun posting there => by
            rcases List.mem_append.mp there with old | new
            · rcases own.posted posting old with held | ⟨outcome, computed⟩
              · exact .inl (List.mem_append_left _ held)
              · exact .inr ⟨outcome, List.mem_append_left _ computed⟩
            · simp at new
              exact .inl (by simp [new])
          inbox := fun posting held => by
            obtain rfl : posting = job.posting := by simpa [empty.1] using held
            refine ⟨by simp [Compression.assign], fun outcome there => uncomputed outcome ?_⟩
            simpa [Compression.assign] using there
          outbox := fun posting outcome held => List.mem_append_left _ (own.outbox posting outcome held)
          one := by simp [empty.1, empty.2] }
      · have before : pool.workers[other]? = some record := by
          simpa [Compression.assign, setSlot, List.getElem?_set_ne (Ne.symm mine)] using there
        refine (sound.workers other record before).grow ?_ (by simp)
        rintro posting same
        simp at same
        exact mine same.1.symm
    spawned := fun who posting there => by
      simp only [Compression.assign, setSlot, List.length_set]
      rcases List.mem_append.mp there with old | new
      · exact sound.spawned who posting old
      · simp at new
        rw [new.1]
        exact (List.getElem?_eq_some_iff.mp found).1 }

theorem Taken.assign {now : ℚ} {job : Job} (taken : Taken now pool job) (sound : Sound pool) (worker : Nat)
    (slot : Slot R) : KeptBut (assign pool now worker slot job) fun _ => False := by
  intro other at_ there
  have before : .accepted other at_ ∈ pool.log := by simpa [Compression.assign] using there
  rcases taken.kept other at_ before with own | settled | queued | ⟨entry, inside, same, timed⟩
  · obtain ⟨accepted, first⟩ := taken.accepted
    obtain rfl := sound.orderly.accepted_unique before first own
    refine .inr (.inr (.inr ⟨_, List.mem_append_right _ (List.mem_singleton.mpr rfl), rfl, _, rfl, ?_⟩))
    -- the timer was set before the deadline
    have early := taken.timely
    rcases max_cases 1 (other.deadline - now) with ⟨is_, -⟩ | ⟨is_, -⟩ <;> rw [is_] <;> linarith
  · exact .inr (.inl settled)
  · exact .inr (.inr (.inl queued))
  · exact .inr (.inr (.inr ⟨entry, List.mem_append_left _ inside, same, timed⟩))

theorem pumpSlots_sound (now : ℚ) (slots : List Nat) {pool : Pool R} (sound : Sound pool)
    (kept : KeptBut pool fun _ => False) :
    Sound (pumpSlots now slots pool) ∧ KeptBut (pumpSlots now slots pool) fun _ => False := by
  induction slots generalizing pool with
  | nil => exact ⟨sound, kept⟩
  | cons worker rest ih =>
    simp only [pumpSlots]
    split
    · next slot found =>
      split
      · exact ih sound kept
      · next free =>
        simp only [Bool.not_eq_true, not_or] at free
        have untouched := nextJob_untouched now pool.queue pool
        cases shifts : nextJob now pool.queue pool with
        | mk after found_ =>
          obtain ⟨later, none_, some_⟩ := nextJob_sound now pool.queue shifts rfl sound kept
          rw [shifts] at untouched
          cases found_ with
          | none => exact ⟨later, none_ rfl⟩
          | some job =>
            have taken := some_ job rfl
            have still : after.workers[worker]? = some slot := by rw [untouched.workers, found]
            exact ih (later.assign still free.1 (by simpa using free.2) taken) (taken.assign later worker slot)
    · exact ih sound kept

theorem pump_sound (now : ℚ) {pool : Pool R} (sound : Sound pool) (kept : KeptBut pool fun _ => False) :
    Sound (pump now pool) ∧ KeptBut (pump now pool) fun _ => False :=
  pumpSlots_sound now pool.slots sound kept

end

end SpaceApp.Gateway.Compression
