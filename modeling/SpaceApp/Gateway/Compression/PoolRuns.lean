import SpaceApp.Gateway.Compression.PoolSound
import Mathlib.Data.List.Nodup

/-! Runs of the compression pool: every event keeps its order, and every promise settles once. -/

set_option autoImplicit false

namespace SpaceApp.Gateway.Compression

section

variable {R : Type} {pool : Pool R}

def InOrder (pool : Pool R) : Prop := Sound pool ∧ KeptBut pool fun _ => False

theorem run_inOrder (order : InOrder pool) (text : String) (deadline : ℚ) (options : BlockRunOptions) (now : ℚ) :
    InOrder (run pool text deadline options now) := by
  obtain ⟨sound, kept⟩ := order
  unfold Compression.run
  split
  · next refused =>
    have may : Allowed pool.log (.refused deadline now) := refused.imp_left sound.closed.mp
    refine ⟨sound.note may (fun id => ?_) (by simp) (by simp), fun job at_ there => ?_⟩
    · rw [sound.flags]
      simp
    · exact kept job at_ (by simpa using there)
  · next taken =>
    simp only [not_or, Bool.not_eq_true, not_le] at taken
    generalize made : ({
        id := pool.nextId
        text
        deadline
        tokenizer := options.tokenizer.getD .o200k
        block := options.block
        onLate := options.onLate } : Job) = job
    have id_ : job.id = pool.nextId := by rw [← made]
    have due : job.deadline = deadline := by rw [← made]
    have unclosed : .closed ∉ pool.log := by
      rw [← sound.closed, taken.1]
      simp
    have may : Allowed pool.log (.accepted job now) := by
      refine ⟨unclosed, due ▸ taken.2, fun other at_ there same => ?_⟩
      have known := sound.ids other at_ there
      omega
    have unposted : ∀ worker posting, .posted worker posting ∈ pool.log → posting.id ≠ job.id := by
      intro worker posting there same
      obtain ⟨other, at_, accepted, rfl⟩ := sound.orderly.posted_accepted there
      have known := sound.ids other at_ accepted
      have own : other.posting.id = other.id := rfl
      omega
    rw [← id_, show deadline = job.deadline from due.symm]
    refine pump_sound now ?_ ?_
    · exact {
        orderly := sound.orderly.snoc may
        flags := fun id => by rw [sound.flags]; simp
        ids := fun other at_ there => by
          rcases List.mem_append.mp there with before | new
          · have known := sound.ids other at_ before
            simp only
            omega
          · simp at new
            simp only [new.1]
            omega
        closed := by simpa using sound.closed
        queued := fun other inside => by
          rcases List.mem_append.mp inside with before | new
          · obtain ⟨⟨at_, accepted⟩, posted⟩ := sound.queued other before
            exact ⟨⟨at_, List.mem_append_left _ accepted⟩, fun worker posting there =>
              posted worker posting (by simpa using there)⟩
          · obtain rfl := List.mem_singleton.mp new
            exact ⟨⟨now, by simp⟩, fun worker posting there => unposted worker posting (by simpa using there)⟩
        queueOnce := by
          rw [List.map_append, List.nodup_append]
          refine ⟨sound.queueOnce, by simp, ?_⟩
          intro id there other same
          obtain ⟨waiting, inside, rfl⟩ := List.mem_map.mp there
          obtain ⟨⟨at_, accepted⟩, -⟩ := sound.queued waiting inside
          have known := sound.ids waiting at_ accepted
          simp at same
          omega
        running := fun entry inside => (sound.running entry inside).grow (by simp) (by simp)
        runningOnce := sound.runningOnce
        workers := fun worker slot found => (sound.workers worker slot found).grow (by simp) (by simp)
        spawned := fun worker posting there => sound.spawned worker posting (by simpa using there) }
    · intro other at_ there
      rcases List.mem_append.mp there with before | new
      · rcases kept other at_ before with gone | settled | ⟨inside, when_, timed, early⟩ | running
        · exact gone.elim
        · exact .inr (.inl settled)
        · exact .inr (.inr (.inl ⟨List.mem_append_left _ inside, when_, List.mem_append_left _ timed, early⟩))
        · exact .inr (.inr (.inr running))
      · simp at new
        obtain ⟨rfl, rfl⟩ := new
        refine .inr (.inr (.inl ⟨by simp, at_ + max 1 (other.deadline - at_), by simp, ?_⟩))
        rcases max_cases 1 (other.deadline - at_) with ⟨is_, -⟩ | ⟨is_, -⟩ <;> rw [is_] <;> linarith [taken.2]

theorem Sound.reslot (sound : Sound pool) {worker : Nat} {slot changed : Slot R}
    (found : pool.workers[worker]? = some slot) (own : SlotSound pool.log worker changed) :
    Sound (setSlot pool worker changed) := {
  sound with
  workers := fun other record there => by
    by_cases mine : other = worker
    · subst mine
      have inside := (List.getElem?_eq_some_iff.mp found).1
      obtain rfl : changed = record := by simpa [setSlot, inside] using there
      exact own
    · exact sound.workers other record (by simpa [setSlot, List.getElem?_set_ne (Ne.symm mine)] using there)
  spawned := fun who posting there => by simpa [setSlot] using sound.spawned who posting there }

theorem boot_inOrder (order : InOrder pool) (worker : Nat) : InOrder (step pool (.boot worker)) := by
  simp only [step]
  split
  · next slot found =>
    split
    · exact order
    · have own := order.1.workers worker slot found
      refine ⟨order.1.reslot found ?_, order.2⟩
      exact {
        __ := own
        outbox := fun posting outcome held => own.outbox posting outcome (by simpa using held)
        one := by simpa [dones] using own.one }
  · exact order

theorem compute_inOrder (order : InOrder pool) (worker : Nat) (outcome : Except String R) :
    InOrder (step pool (.compute worker outcome)) := by
  obtain ⟨sound, kept⟩ := order
  simp only [step]
  split
  · next slot found =>
    split
    · next posting rest inbox =>
      have own := sound.workers worker slot found
      have place := (List.getElem?_eq_some_iff.mp found).1
      have single : rest = [] ∧ dones slot.outbox = 0 := by
        have one := own.one
        rw [inbox, List.length_cons] at one
        split at one
        · exact ⟨List.length_eq_zero_iff.mp (by omega), by omega⟩
        · omega
      obtain ⟨posted, uncomputed⟩ := own.inbox posting (by simp [inbox])
      have may : Allowed pool.log (.computed worker posting outcome) := ⟨posted, uncomputed⟩
      refine ⟨{
        orderly := sound.orderly.snoc may
        flags := fun id => by simp [setSlot, sound.flags]
        ids := fun job now there => sound.ids job now (by simpa using there)
        closed := by simpa [setSlot] using sound.closed
        queued := fun job inside => by
          obtain ⟨⟨now, accepted⟩, unposted⟩ := sound.queued job inside
          exact ⟨⟨now, List.mem_append_left _ accepted⟩, fun who other there => unposted who other (by simpa using there)⟩
        __ := sound
        running := fun entry inside => (sound.running entry inside).grow (by simp) (by simp)
        workers := fun other record there => ?_
        spawned := fun who other there => by
          simpa [setSlot] using sound.spawned who other (by simpa using there) }, fun job now there => ?_⟩
      · by_cases mine : other = worker
        · subst mine
          obtain rfl : { slot with inbox := rest, outbox := slot.outbox ++ [.done posting outcome] } = record := by
            simpa [setSlot, place] using there
          exact {
            ready := fun ready => List.mem_append_left _ (own.ready ready)
            posted := fun other there => by
              rcases own.posted other (by simpa using there) with held | ⟨result, computed⟩
              · obtain rfl : other = posting := by simpa [inbox, single.1] using held
                exact .inr ⟨outcome, by simp⟩
              · exact .inr ⟨result, List.mem_append_left _ computed⟩
            inbox := by simp [single.1]
            outbox := fun other result held => by
              rcases List.mem_append.mp held with before | new
              · exact List.mem_append_left _ (own.outbox other result before)
              · simp at new
                simp [new]
            one := by
              have one := own.one
              simp only [dones, List.countP_append] at one single ⊢
              split at one <;> simp_all }
        · have before : pool.workers[other]? = some record := by
            simpa [setSlot, List.getElem?_set_ne (Ne.symm mine)] using there
          refine (sound.workers other record before).grow (by simp) fun _ _ same => ?_
          simp at same
          exact mine same.1.symm
      · exact kept job now (by simpa using there)
    · exact ⟨sound, kept⟩
  · exact ⟨sound, kept⟩

theorem SlotSound.taken {log : List (Happening R)} {worker : Nat} {slot : Slot R} (own : SlotSound log worker slot)
    {message : Message R} {rest : List (Message R)} (outbox : slot.outbox = message :: rest) :
    SlotSound log worker { slot with outbox := rest } where
  __ := own
  outbox posting outcome held := own.outbox posting outcome (by simp [outbox, held])
  one := by
    have one := own.one
    rw [outbox, dones, List.countP_cons] at one
    simp only [dones]
    omega

theorem Sound.unrun (sound : Sound pool) (left : Running → Bool) :
    Sound { pool with running := pool.running.filter left } := {
  sound with
  running := fun entry inside => sound.running entry (List.mem_filter.mp inside).1
  runningOnce := (List.filter_sublist.map _).nodup sound.runningOnce }

theorem KeptBut.unrun {missing : Nat → Prop} (kept : KeptBut pool missing) (left : Running → Bool) :
    KeptBut { pool with running := pool.running.filter left } fun id =>
      missing id ∨ ∃ entry ∈ pool.running, left entry = false ∧ entry.job.id = id := by
  intro job now there
  rcases kept job now there with gone | settled | queued | ⟨entry, inside, same, timed⟩
  · exact .inl (.inl gone)
  · exact .inr (.inl settled)
  · exact .inr (.inr (.inl queued))
  · cases stays : left entry with
    | true => exact .inr (.inr (.inr ⟨entry, List.mem_filter.mpr ⟨inside, stays⟩, same, timed⟩))
    | false => exact .inl (.inr ⟨entry, inside, stays, by rw [same]⟩)

/-- The answer to a job that runs no more goes to its caller or, too late for that, to `onLate`. -/
theorem answer_inOrder (sound : Sound pool) {job : Job} (kept : KeptBut pool fun id => id = job.id)
    (idle : ∀ other ∈ pool.running, other.job.id ≠ job.id) {at_ : ℚ} (accepted : .accepted job at_ ∈ pool.log)
    {worker : Nat} {outcome : Except String R} (computed : .computed worker job.posting outcome ∈ pool.log)
    (unanswered : ∀ value : Option R, Happening.settled job.id value ∈ pool.log → value = none)
    (timely : ∀ result : R, Happening.late job.id result ∉ pool.log) (now : ℚ) :
    InOrder (pump now (answer pool job outcome)) := by
  unfold answer
  by_cases settled : job.id ∈ pool.settledJobs
  · rw [if_pos settled]
    obtain ⟨value, there⟩ := (sound.flags _).mp settled
    obtain rfl := unanswered value there
    have back : KeptBut pool fun _ => False := by
      intro other when_ known
      rcases kept other when_ known with missing | rest
      · exact .inr (.inl (missing ▸ settled))
      · exact .inr rest
    cases outcome with
    | error _ => exact pump_sound now sound back
    | ok result =>
      by_cases told : job.onLate = true
      · simp only [told, if_true]
        have may : Allowed pool.log (.late job.id result) :=
          ⟨there, timely, job, at_, worker, accepted, rfl, computed⟩
        refine pump_sound now (sound.note may (fun id => ?_) (by simp) fun other inside => ⟨by simp, fun _ same => ?_⟩)
          fun other when_ known => back other when_ (by simpa using known)
        · rw [sound.flags]
          simp
        · simp at same
          exact idle other inside same.1.symm
      · simp only [told, Bool.false_eq_true, if_false]
        exact pump_sound now sound back
  · rw [if_neg settled]
    refine pump_sound now (sound.settle ⟨job, at_, accepted, rfl⟩ (fun result same => ?_) fun _ => idle) ?_
    · cases outcome with
      | error _ => cases same
      | ok value =>
        cases same
        exact ⟨job, at_, worker, accepted, rfl, computed⟩
    · refine (kept.settle job.id outcome.toOption).weaken ?_
      rintro id ⟨missing, apart⟩
      exact apart missing

theorem done_inOrder (order : InOrder pool) {worker : Nat} {slot : Slot R} (found : pool.workers[worker]? = some slot)
    {posting : Posting} {outcome : Except String R} {rest : List (Message R)}
    (outbox : slot.outbox = .done posting outcome :: rest) (now : ℚ) :
    InOrder (handle (setSlot pool worker { slot with outbox := rest }) worker { slot with outbox := rest } now
      (.done posting outcome)) := by
  obtain ⟨sound, kept⟩ := order
  have own := sound.workers worker slot found
  have place := (List.getElem?_eq_some_iff.mp found).1
  have computed := own.outbox posting outcome (by simp [outbox])
  have soundTaken := sound.reslot found (own.taken outbox)
  have empty : slot.inbox = [] ∧ dones rest = 0 := by
    have one := own.one
    rw [outbox, dones, List.countP_cons] at one
    simp only [if_true] at one
    split at one
    · exact ⟨List.length_eq_zero_iff.mp (by omega), by simp only [dones]; omega⟩
    · omega
  simp only [handle, setSlot]
  cases runs : pool.running.find? fun entry => decide (entry.job.id = posting.id) with
  | none => exact ⟨soundTaken, kept⟩
  | some entry =>
    have inside := List.mem_of_find?_eq_some runs
    have sameId : entry.job.id = posting.id := by simpa using List.find?_some runs
    have held := sound.running entry inside
    obtain ⟨at_, accepted⟩ := held.accepted
    obtain ⟨sameSlot, rfl⟩ := sound.orderly.posted_unique (sound.orderly.computed_posted computed) held.posted sameId.symm
    have free : SlotSound pool.log worker { slot with outbox := rest, busy := false } := {
      __ := own
      outbox := (own.taken outbox).outbox
      one := by simp [empty.1, empty.2] }
    have placed : (setSlot pool worker { slot with outbox := rest }).workers[worker]? =
        some { slot with outbox := rest } := by simp [setSlot, place]
    have freed := (soundTaken.reslot placed free).unrun fun other => other.job.id ≠ entry.job.posting.id
    have gone : ∀ id, (False ∨ ∃ other ∈ pool.running, (decide (other.job.id ≠ entry.job.posting.id)) = false ∧
        other.job.id = id) → id = entry.job.id := by
      rintro id (no | ⟨other, -, same, rfl⟩)
      · exact no.elim
      · have own : other.job.id = entry.job.posting.id := by simpa using same
        exact own
    refine answer_inOrder freed (fun job when_ there => ?_) (fun other inside same => ?_) accepted computed held.settled
      held.late now
    · exact (kept.unrun fun other => other.job.id ≠ entry.job.posting.id).weaken gone job when_ there
    · have apart : other.job.id ≠ entry.job.posting.id := by simpa using (List.mem_filter.mp inside).2
      exact apart same

theorem settleAll_sound {A : Type} (idOf : A → Nat) (gone : List A) {pool : Pool R} (sound : Sound pool)
    (known : ∀ entry ∈ gone, ∃ job now, .accepted job now ∈ pool.log ∧ job.id = idOf entry) {missing : Nat → Prop}
    (kept : KeptBut pool missing) (all : ∀ id, missing id → ∃ entry ∈ gone, idOf entry = id) :
    InOrder (gone.foldl (fun after entry => settle after (idOf entry) none) pool) ∧
      Untouched pool (gone.foldl (fun after entry => settle after (idOf entry) none) pool) := by
  induction gone generalizing pool missing with
  | nil =>
    have none_ : KeptBut pool fun _ => False := kept.weaken fun id held => by simpa using all id held
    exact ⟨⟨sound, none_⟩, rfl, rfl, rfl, rfl, List.Subset.refl _, fun _ _ there => there⟩
  | cons entry rest ih =>
    obtain ⟨flags, new, same, -, entries⟩ := settle_frame pool (idOf entry) none
    have grown : pool.log ⊆ (settle pool (idOf entry) none).log := by
      rw [same]
      exact List.subset_append_left _ _
    obtain ⟨order, untouched⟩ := ih (sound.settle (known entry (List.mem_cons_self ..)) (by simp) (by simp))
      (fun other inside => by
        obtain ⟨job, now, accepted, own⟩ := known other (List.mem_cons_of_mem _ inside)
        exact ⟨job, now, grown accepted, own⟩)
      (kept.settle (idOf entry) none) (fun id held => by
        obtain ⟨other, inside, own⟩ := all id held.1
        rcases List.mem_cons.mp inside with rfl | later
        · exact absurd own.symm held.2
        · exact ⟨other, later, own⟩)
    rw [List.foldl_cons]
    refine ⟨order, ?_⟩
    rw [same] at untouched ⊢
    exact {
      __ := untouched
      log := fun next there => untouched.log (List.mem_append_left _ there)
      posted := fun worker posting there => by
        rcases List.mem_append.mp (untouched.posted worker posting there) with before | added
        · exact before
        · cases entries _ added }

theorem Sound.spawn (sound : Sound pool) (slots : List Nat) :
    Sound { pool with workers := pool.workers ++ [{}], slots := slots } := {
  sound with
  workers := fun worker slot found => by
    rcases Nat.lt_or_ge worker pool.workers.length with old | new
    · rw [List.getElem?_append_left old] at found
      exact sound.workers worker slot found
    · have last : worker = pool.workers.length := by
        have bound := (List.getElem?_eq_some_iff.mp found).1
        simp at bound
        omega
      subst last
      obtain rfl : {} = slot := by simpa using found
      exact {
        ready := by simp
        posted := fun posting there => by
          have known := sound.spawned _ posting there
          omega
        inbox := by simp
        outbox := by simp
        one := by simp [dones] }
  spawned := fun worker posting there => by
    have known := sound.spawned worker posting there
    simp
    omega }

theorem replace_inOrder (order : InOrder pool) (worker : Nat) (now : ℚ) : InOrder (replace pool worker now) := by
  obtain ⟨sound, kept⟩ := order
  unfold Compression.replace
  have known : ∀ entry ∈ pool.running.filter (fun entry => entry.slot = worker),
      ∃ job now, .accepted job now ∈ pool.log ∧ job.id = entry.job.id := by
    intro entry inside
    obtain ⟨at_, accepted⟩ := (sound.running entry (List.mem_filter.mp inside).1).accepted
    exact ⟨entry.job, at_, accepted, rfl⟩
  obtain ⟨settled, -⟩ := settleAll_sound (fun entry : Running => entry.job.id) _
    (sound.unrun fun entry => entry.slot ≠ worker) known (kept.unrun fun entry => entry.slot ≠ worker)
    (fun id missing => by
      rcases missing with no | ⟨entry, inside, own, same⟩
      · exact no.elim
      · exact ⟨entry, List.mem_filter.mpr ⟨inside, by simpa using own⟩, same⟩)
  dsimp only
  split
  · exact pump_sound now (settled.1.spawn _) settled.2
  · exact pump_sound now settled.1 settled.2

theorem soft_inOrder (order : InOrder pool) (id : Nat) : InOrder (step pool (.soft id)) := by
  obtain ⟨sound, kept⟩ := order
  simp only [step]
  split
  · next entry runs =>
    have inside := List.mem_of_find?_eq_some runs
    have own : entry.job.id = id := by simpa using List.find?_some runs
    split
    · obtain ⟨at_, accepted⟩ := (sound.running entry inside).accepted
      have fired : Sound { pool with running := pool.running.map fun other =>
          if other.job.id = id then { other with soft := none } else other } := {
        sound with
        running := fun other there => by
          obtain ⟨before, held, rfl⟩ := List.mem_map.mp there
          have old := sound.running before held
          split
          · exact { old with }
          · exact old
        runningOnce := by
          have same : (pool.running.map fun other => if other.job.id = id then { other with soft := none } else other).map
              (fun entry => entry.job.id) = pool.running.map fun entry => entry.job.id := by
            rw [List.map_map]
            refine List.map_congr_left fun other _ => ?_
            simp only [Function.comp]
            split <;> rfl
          exact same ▸ sound.runningOnce }
      have left : KeptBut { pool with running := pool.running.map fun other =>
          if other.job.id = id then { other with soft := none } else other } fun other => other = id := by
        intro job now there
        rcases kept job now there with no | settled | queued | ⟨other, held, same, timed⟩
        · exact no.elim
        · exact .inr (.inl settled)
        · exact .inr (.inr (.inl queued))
        · by_cases mine : other.job.id = id
          · exact .inl (by rw [← same, mine])
          · exact .inr (.inr (.inr ⟨other, List.mem_map.mpr ⟨other, held, if_neg mine⟩, same, timed⟩))
      refine ⟨fired.settle ⟨entry.job, at_, accepted, own⟩ (by simp) (by simp), (left.settle id none).weaken ?_⟩
      simp
    · exact ⟨sound, kept⟩
  · exact ⟨sound, kept⟩

theorem Sound.expire (sound : Sound pool) {queue : List Job} (fewer : queue.Sublist pool.queue)
    (expiries : List (Nat × ℚ)) : Sound { pool with queue := queue, expiries := expiries } := {
  sound with
  queued := fun job inside => sound.queued job (fewer.subset inside)
  queueOnce := (fewer.map Job.id).nodup sound.queueOnce }

theorem expiry_inOrder (order : InOrder pool) (id : Nat) : InOrder (step pool (.expiry id)) := by
  obtain ⟨sound, kept⟩ := order
  -- what the timer leaves, whether its job was still in the queue or not
  have others : ∀ queue : List Job, (∀ job ∈ pool.queue, job.id ≠ id → job ∈ queue) →
      KeptBut { pool with queue := queue, expiries := pool.expiries.filter fun timer => timer.1 ≠ id }
        fun other => other = id ∧ ∃ job ∈ pool.queue, job.id = id := by
    intro queue stays job now there
    rcases kept job now there with no | settled | ⟨inside, due, timed, early⟩ | running
    · exact no.elim
    · exact .inr (.inl settled)
    · by_cases mine : job.id = id
      · exact .inl ⟨mine, job, inside, mine⟩
      · exact .inr (.inr (.inl ⟨stays job inside mine, due, by simp [timed, mine], early⟩))
    · exact .inr (.inr (.inr running))
  simp only [step]
  split
  · split
    · next queued =>
      obtain ⟨job, inside, own⟩ := List.mem_map.mp queued
      obtain ⟨⟨at_, accepted⟩, -⟩ := sound.queued job inside
      have shorter : Sound { pool with
          queue := pool.queue.filter fun other => other.id ≠ id
          expiries := pool.expiries.filter fun timer => timer.1 ≠ id } := sound.expire List.filter_sublist _
      have left := others (pool.queue.filter fun other => other.id ≠ id) fun other there apart => by simp [there, apart]
      refine ⟨shorter.settle ⟨job, at_, accepted, own⟩ (by simp) (by simp), (left.settle id none).weaken ?_⟩
      rintro other ⟨⟨same, -⟩, apart⟩
      exact apart same
    · next unqueued =>
      refine ⟨sound.expire (List.Sublist.refl _) _, (others pool.queue fun job inside _ => inside).weaken ?_⟩
      rintro other ⟨-, job, inside, own⟩
      exact unqueued (List.mem_map.mpr ⟨job, inside, own⟩)
  · exact ⟨sound, kept⟩

theorem close_inOrder (order : InOrder pool) : InOrder (step pool .close) := by
  obtain ⟨sound, kept⟩ := order
  have may : Allowed pool.log (.closed : Happening R) := trivial
  have closed : Sound { pool with closed := true, queue := [], log := pool.log ++ [.closed] } := {
    orderly := sound.orderly.snoc may
    flags := fun id => by simp [sound.flags]
    ids := fun job now there => sound.ids job now (by simpa using there)
    closed := by simp
    queued := by simp
    queueOnce := by simp
    running := fun entry inside => (sound.running entry inside).grow (by simp) (by simp)
    runningOnce := sound.runningOnce
    workers := fun worker slot found => (sound.workers worker slot found).grow (by simp) (by simp)
    spawned := fun worker posting there => sound.spawned worker posting (by simpa using there) }
  have left : KeptBut { pool with closed := true, queue := [], log := pool.log ++ [.closed] }
      fun id => ∃ job ∈ pool.queue, job.id = id := by
    intro job now there
    rcases kept job now (by simpa using there) with no | settled | ⟨inside, -⟩ | running
    · exact no.elim
    · exact .inr (.inl settled)
    · exact .inl ⟨job, inside, rfl⟩
    · exact .inr (.inr (.inr running))
  refine (settleAll_sound Job.id pool.queue closed (fun job inside => ?_) left fun id held => held).1
  obtain ⟨⟨now, accepted⟩, -⟩ := sound.queued job inside
  exact ⟨job, now, List.mem_append_left _ accepted, rfl⟩

theorem message_inOrder (order : InOrder pool) (worker : Nat) (now : ℚ) : InOrder (step pool (.message worker now)) := by
  simp only [step]
  split
  · next slot found =>
    split
    · next message rest outbox =>
      cases message with
      | done posting outcome => exact done_inOrder order found outbox now
      | ready =>
        obtain ⟨sound, kept⟩ := order
        have own := (sound.workers worker slot found).taken outbox
        have may : Allowed pool.log (.ready worker : Happening R) := trivial
        have noted := sound.note may (fun id => by rw [sound.flags]; simp) (by simp) (by simp)
        have ready : SlotSound (pool.log ++ [.ready worker]) worker { slot with outbox := rest, ready := true } := {
          own.grow (by simp) (by simp) with
          ready := fun _ => by simp }
        have told := noted.reslot found ready
        simp only [handle, setSlot, List.set_set]
        exact pump_sound now told fun job at_ there => kept job at_ (by simpa using there)
    · exact order
  · exact order

theorem step_inOrder (order : InOrder pool) (event : Event R) : InOrder (step pool event) := by
  cases event with
  | run text deadline options now => exact run_inOrder order text deadline options now
  | boot worker => exact boot_inOrder order worker
  | compute worker outcome => exact compute_inOrder order worker outcome
  | message worker now => exact message_inOrder order worker now
  | error worker now =>
    simp only [step]
    split
    · exact replace_inOrder order worker now
    · exact order
  | soft id => exact soft_inOrder order id
  | hard id now =>
    simp only [step]
    split
    · exact replace_inOrder order _ now
    · exact order
  | expiry id => exact expiry_inOrder order id
  | close => exact close_inOrder order

theorem start_inOrder (size : Nat) (hardLimitMs : ℚ) : InOrder (start size hardLimitMs : Pool R) := by
  refine ⟨{
    orderly := fun past next rest same => by simp [start] at same
    flags := by simp [start]
    ids := by simp [start]
    closed := by simp [start]
    queued := by simp [start]
    queueOnce := by simp [start]
    running := by simp [start]
    runningOnce := by simp [start]
    workers := fun worker slot found => by
      obtain rfl : {} = slot := by
        have held := List.mem_of_getElem? found
        simp [start] at held
        exact held.symm
      exact { ready := by simp, posted := by simp [start], inbox := by simp, outbox := by simp, one := by simp [dones] }
    spawned := by simp [start] }, fun job now there => by simp [start] at there⟩

theorem runs_inOrder (order : InOrder pool) (events : List (Event R)) : InOrder (runs pool events) := by
  induction events generalizing pool with
  | nil => exact order
  | cons event rest ih => exact ih (step_inOrder order event)

theorem settle_slots (pool : Pool R) (id : Nat) (value : Option R) : (settle pool id value).slots = pool.slots := by
  unfold settle
  split <;> rfl

theorem settleAll_slots {A : Type} (idOf : A → Nat) (gone : List A) (pool : Pool R) :
    (gone.foldl (fun after entry => settle after (idOf entry) none) pool).slots = pool.slots := by
  induction gone generalizing pool with
  | nil => rfl
  | cons entry rest ih => rw [List.foldl_cons, ih, settle_slots]

theorem pumpSlots_slots (now : ℚ) (slots : List Nat) (pool : Pool R) : (pumpSlots now slots pool).slots = pool.slots := by
  induction slots generalizing pool with
  | nil => rfl
  | cons worker rest ih =>
    simp only [pumpSlots]
    split
    · split
      · exact ih pool
      · have untouched := nextJob_untouched now pool.queue pool
        cases shifts : nextJob now pool.queue pool with
        | mk after found =>
          rw [shifts] at untouched
          cases found with
          | none => exact untouched.slots
          | some job => exact (ih _).trans untouched.slots
    · exact ih pool

theorem pump_slots (now : ℚ) (pool : Pool R) : (pump now pool).slots = pool.slots := pumpSlots_slots now pool.slots pool

theorem replace_slots (pool : Pool R) (worker : Nat) (now : ℚ) :
    (replace pool worker now).slots.length = pool.slots.length := by
  simp only [replace, pump_slots]
  split
  · rw [List.length_set, settleAll_slots fun entry : Running => entry.job.id]
  · rw [settleAll_slots fun entry : Running => entry.job.id]

theorem answer_slots (pool : Pool R) (job : Job) (outcome : Except String R) :
    (answer pool job outcome).slots = pool.slots := by
  unfold answer
  split
  · split
    · split <;> rfl
    · rfl
  · exact settle_slots pool job.id outcome.toOption

theorem step_slots (pool : Pool R) (event : Event R) : (step pool event).slots.length = pool.slots.length := by
  cases event with
  | run text deadline options now =>
    simp only [step, run]
    split
    · rfl
    · simp [pump_slots]
  | boot worker =>
    simp only [step]
    split
    · split <;> rfl
    · rfl
  | compute worker outcome =>
    simp only [step]
    split
    · split <;> rfl
    · rfl
  | message worker now =>
    simp only [step]
    split
    · split
      · next message _ _ =>
        cases message with
        | ready => simp [handle, pump_slots, setSlot]
        | done posting outcome =>
          simp only [handle]
          split
          · rfl
          · simp [pump_slots, answer_slots, setSlot]
      · rfl
    · rfl
  | error worker now =>
    simp only [step]
    split
    · exact replace_slots pool worker now
    · rfl
  | soft id =>
    simp only [step]
    split
    · split
      · simp [settle_slots]
      · rfl
    · rfl
  | hard id now =>
    simp only [step]
    split
    · exact replace_slots pool _ now
    · rfl
  | expiry id =>
    simp only [step]
    split
    · split
      · simp [settle_slots]
      · rfl
    · rfl
  | close => simp [step, settleAll_slots Job.id]

theorem runs_slots (pool : Pool R) (events : List (Event R)) : (runs pool events).slots.length = pool.slots.length := by
  induction events generalizing pool with
  | nil => rfl
  | cons event rest ih => exact (ih _).trans (step_slots pool event)

theorem settle_settled (pool : Pool R) (id : Nat) (value : Option R) : id ∈ (settle pool id value).settledJobs := by
  unfold settle
  split
  · assumption
  · simp

theorem expiry_settles {job : Job} {due : ℚ} (inside : job ∈ pool.queue) (timed : (job.id, due) ∈ pool.expiries) :
    job.id ∈ (step pool (.expiry job.id)).settledJobs := by
  have armed : job.id ∈ pool.expiries.map Prod.fst := List.mem_map.mpr ⟨_, timed, rfl⟩
  have queued : job.id ∈ pool.queue.map Job.id := List.mem_map.mpr ⟨job, inside, rfl⟩
  simp only [step, if_pos armed, if_pos queued]
  exact settle_settled _ _ _

theorem soft_settles (sound : Sound pool) {entry : Running} {due : ℚ} (inside : entry ∈ pool.running)
    (timed : entry.soft = some due) : entry.job.id ∈ (step pool (.soft entry.job.id)).settledJobs := by
  have found : pool.running.find? (fun other => decide (other.job.id = entry.job.id)) = some entry := by
    cases runs : pool.running.find? fun other => decide (other.job.id = entry.job.id) with
    | none => simpa using List.find?_eq_none.mp runs entry inside
    | some first =>
      have own : first.job.id = entry.job.id := by simpa using List.find?_some runs
      rw [List.inj_on_of_nodup_map sound.runningOnce (List.mem_of_find?_eq_some runs) inside own]
  simp only [step, found, timed, Option.isSome_some, if_true]
  exact settle_settled _ _ _

end

end SpaceApp.Gateway.Compression
