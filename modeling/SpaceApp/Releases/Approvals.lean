import Mathlib.Data.List.Basic
import Mathlib.Data.List.Induction
import SpaceApp.Releases.Trains

/-! What every run of release trains keeps: a train is marked publishing at the candidate the operator approved. -/

set_option autoImplicit false

namespace SpaceApp.Releases

section

variable {train after : ReleaseTrain} {input : ReleaseTrainInput} {actor : ReleaseTrainActor} {at_ : String}

theorem approved_iff : train.approved = true ↔ ∃ sha, train.approvedSha = some sha ∧ train.sourceSha = some sha := by
  unfold ReleaseTrain.approved
  split
  · next approved source isApproved isSource =>
    rw [isApproved, isSource, decide_eq_true_eq]
    constructor
    · rintro rfl
      exact ⟨_, rfl, rfl⟩
    · rintro ⟨sha, same, other⟩
      cases same
      cases other
      rfl
  · next absent =>
    constructor
    · nofun
    · rintro ⟨sha, approved, source⟩
      exact (absent _ _ approved source).elim

/-- What an operation on a live train made of it. -/
inductive LiveChange (train : ReleaseTrain) (input : ReleaseTrainInput) (actor : ReleaseTrainActor) : ReleaseTrain → Prop where
  | joined {entry : Contributor} {at_ : String} (op : input.op = .join) (isOpen : train.status = .open) :
      LiveChange train input actor { train with
        contributors := train.contributors.filter (fun item => item.commit ≠ entry.commit) ++ [entry]
        updatedAt := at_ }
  | left {stays : Contributor → Bool} {at_ : String} (op : input.op = .leave) :
      LiveChange train input actor { train with contributors := train.contributors.filter stays, updatedAt := at_ }
  | candidate {sha at_ : String} (op : input.op = .candidate) (may : train.status = .open ∨ train.approved = false) :
      LiveChange train input actor { train with sourceSha := some sha, status := .open, updatedAt := at_ }
  | approved {sha at_ : String} (op : input.op = .approve) (operator : actor.operatorApproved = true)
      (isOpen : train.status = .open) (source : train.sourceSha = some sha) :
      LiveChange train input actor { train with approvedSha := train.sourceSha, updatedAt := at_ }
  | publishing {at_ : String} (op : input.op = .publishing) (approved : train.approved = true) :
      LiveChange train input actor { train with status := .publishing, updatedAt := at_ }
  | published {at_ : String} (op : input.op = .published) :
      LiveChange train input actor { train with status := .published, updatedAt := at_ }
  | cancelled {at_ : String} (op : input.op ∉ [.join, .leave, .candidate, .approve, .publishing, .published]) :
      LiveChange train input actor { train with status := .cancelled, updatedAt := at_ }

theorem joinTrain_change (op : input.op = .join) (joins : joinTrain train input actor at_ = .ok after) :
    LiveChange train input actor after := by
  unfold joinTrain at joins
  split at joins
  · cases joins
  next isOpen =>
  split at joins
  · cases joins
    exact .joined op (not_not.mp isOpen)
  · cases joins

theorem leaveTrain_change (op : input.op = .leave) (leaves : leaveTrain train input actor at_ = .ok after) :
    LiveChange train input actor after := by
  unfold leaveTrain at leaves
  split at leaves
  · cases leaves
  · cases leaves
    exact .left op

theorem candidateTrain_change (op : input.op = .candidate) (records : candidateTrain train input at_ = .ok after) :
    LiveChange train input actor after := by
  unfold candidateTrain at records
  split at records
  · cases records
  next may =>
  split at records
  · cases records
  · cases records
    rw [not_and_or, not_not, Bool.not_eq_true] at may
    exact .candidate op may

theorem approveTrain_change (op : input.op = .approve) (approves : approveTrain train actor at_ = .ok after) :
    LiveChange train input actor after := by
  unfold approveTrain at approves
  split at approves
  · cases approves
  next operator =>
  split at approves
  · cases approves
  next ready =>
  cases approves
  rw [not_or, not_not] at ready
  rw [Bool.not_eq_false] at operator
  obtain ⟨sha, source⟩ := Option.ne_none_iff_exists'.mp ready.2
  exact .approved op operator ready.1 source

theorem publishingTrain_change (op : input.op = .publishing) (publishes : publishingTrain train input at_ = .ok after) :
    LiveChange train input actor after := by
  unfold publishingTrain at publishes
  split at publishes
  · cases publishes
  split at publishes
  · cases publishes
  next approved =>
  cases publishes
  rw [Bool.not_eq_false] at approved
  exact .publishing op approved

theorem changeLive_change (changes : changeLive train input actor at_ = .ok after) : LiveChange train input actor after := by
  unfold changeLive at changes
  split at changes
  · cases changes
  split at changes
  · cases changes
  split at changes
  · next op => exact joinTrain_change op changes
  · next op => exact leaveTrain_change op changes
  · next op => exact candidateTrain_change op changes
  · next op => exact approveTrain_change op changes
  · next op => exact publishingTrain_change op changes
  · next op =>
    cases changes
    exact .published op
  · next join leave candidate approve publishing published =>
    cases changes
    refine .cancelled fun member => ?_
    simp only [List.mem_cons, List.not_mem_nil, or_false] at member
    rcases member with op | op | op | op | op | op
    · exact join op
    · exact leave op
    · exact candidate op
    · exact approve op
    · exact publishing op
    · exact published op

structure Fresh (train : ReleaseTrain) : Prop where
  status : train.status = .open
  sourceSha : train.sourceSha = none
  approvedSha : train.approvedSha = none
  contributors : train.contributors = []

theorem openTrain_fresh {live : Option ReleaseTrain} (opens : openTrain live input actor at_ = .ok after) : Fresh after := by
  unfold openTrain at opens
  split at opens
  · cases opens
  split at opens
  · cases opens
  · cases opens
  · cases opens
    exact ⟨rfl, rfl, rfl, rfl⟩

theorem changeReleaseTrain_change {record : Option TrainRecord} {written : TrainRecord} {writes : Bool}
    (changes : changeReleaseTrain record input actor at_ writes = .ok written) :
    (input.op = .open ∧ Fresh written.value) ∨
    (input.op ≠ .open ∧ ∃ before, record.map (·.value) = some before ∧ isLiveTrain before = true ∧
      LiveChange before input actor written.value) := by
  unfold changeReleaseTrain at changes
  split at changes
  · cases changes
  dsimp only at changes
  split at changes
  · cases changes
  next next_ isNext =>
  split at changes
  · cases changes
    split at isNext
    · next op => exact .inl ⟨op, openTrain_fresh isNext⟩
    · cases isNext
    · next live found op =>
      obtain ⟨known, lives⟩ := Option.filter_eq_some_iff.mp found
      exact .inr ⟨op, live, known, lives, changeLive_change isNext⟩
  · cases changes

/-- The change recorded the commit as the train's candidate. -/
def Change.Records (change : Change) (sha : String) : Prop :=
  change.input.op = .candidate ∧ change.after.sourceSha = some sha

/-- The operator approved the commit, which was the train's candidate. -/
def Change.Approves (change : Change) (sha : String) : Prop :=
  change.input.op = .approve ∧ change.actor.operatorApproved = true ∧ change.before.bind (·.sourceSha) = some sha

def ApprovedAfter (changes : List Change) (sha : String) : Prop :=
  ∃ earlier candidate middle approval later, changes = earlier ++ candidate :: (middle ++ approval :: later) ∧
    Change.Records candidate sha ∧ Change.Approves approval sha

def ApprovedByOperator (changes : List Change) (train : ReleaseTrain) : Prop :=
  ∃ sha, train.sourceSha = some sha ∧ train.approvedSha = some sha ∧ ApprovedAfter changes sha

theorem ApprovedAfter.append {changes : List Change} {sha : String} (approved : ApprovedAfter changes sha) (change : Change) :
    ApprovedAfter (changes ++ [change]) sha := by
  obtain ⟨earlier, candidate, middle, approval, later, rfl, records, approves⟩ := approved
  exact ⟨earlier, candidate, middle, approval, later ++ [change], by simp, records, approves⟩

structure Sound (changes : List Change) (train : ReleaseTrain) : Prop where
  recorded : ∀ sha, train.sourceSha = some sha → ∃ change ∈ changes, Change.Records change sha
  approved : ∀ sha, train.approvedSha = some sha → ApprovedAfter changes sha
  unpublished : train.status = .open → ∀ change ∈ changes, change.input.op ≠ .publishing
  publishing : train.status = .publishing → train.approved = true
  published : train.status = .published → (∃ change ∈ changes, change.input.op = .publishing) → train.approved = true
  once : (train.contributors.map (·.commit)).Nodup
  joins : ∀ change ∈ changes, change.input.op = .join → ∃ before, change.before = some before ∧ before.status = .open ∧
    change.after.sourceSha = before.sourceSha ∧ change.after.approvedSha = before.approvedSha

theorem Fresh.sound (fresh : Fresh after) {change : Change} (op : change.input.op = .open) : Sound [change] after := by
  obtain ⟨status, sourceSha, approvedSha, contributors⟩ := fresh
  constructor
  · simp [sourceSha]
  · simp [approvedSha]
  · simp [op]
  · simp [status]
  · simp [status]
  · simp [contributors]
  · simp [op]

variable {changes : List Change}

section
variable (sound : Sound changes train)

include sound

theorem Sound.recorded_append (change : Change) (sha : String) (known : train.sourceSha = some sha) :
    ∃ other ∈ changes ++ [change], Change.Records other sha := by
  obtain ⟨other, member, records⟩ := sound.recorded sha known
  exact ⟨other, List.mem_append_left _ member, records⟩

theorem Sound.approved_append (change : Change) (sha : String)
    (known : train.approvedSha = some sha) : ApprovedAfter (changes ++ [change]) sha :=
  (sound.approved sha known).append change

theorem Sound.approve {change : Change} {sha : String} (known : train.sourceSha = some sha)
    (approves : change.Approves sha) : ApprovedAfter (changes ++ [change]) sha := by
  obtain ⟨candidate, member, records⟩ := sound.recorded sha known
  obtain ⟨earlier, middle, rfl⟩ := List.append_of_mem member
  exact ⟨earlier, candidate, middle, change, [], by rw [List.append_assoc, List.cons_append], records, approves⟩

theorem Sound.unpublished_append {change : Change} (isOpen : train.status = .open)
    (op : change.input.op ≠ .publishing) : ∀ other ∈ changes ++ [change], other.input.op ≠ .publishing := by
  intro other member
  rcases List.mem_append.mp member with old | new
  · exact sound.unpublished isOpen other old
  · rw [List.mem_singleton] at new
    rw [new]
    exact op

theorem Sound.joins_append {change : Change}
    (joins : change.input.op = .join → ∃ before, change.before = some before ∧ before.status = .open ∧
      change.after.sourceSha = before.sourceSha ∧ change.after.approvedSha = before.approvedSha) :
    ∀ other ∈ changes ++ [change], other.input.op = .join → ∃ before, other.before = some before ∧ before.status = .open ∧
      other.after.sourceSha = before.sourceSha ∧ other.after.approvedSha = before.approvedSha := by
  intro other member isJoin
  rcases List.mem_append.mp member with old | new
  · exact sound.joins other old isJoin
  · rw [List.mem_singleton] at new
    subst new
    exact joins isJoin

/-- Of the parts of a train that an operation leaves alone, what is known stays so. -/
theorem Sound.append {change : Change} (source : after.sourceSha = train.sourceSha)
    (approvedSha : after.approvedSha = train.approvedSha) (status : after.status = train.status)
    (once : (after.contributors.map (·.commit)).Nodup) (op : change.input.op ≠ .publishing)
    (joins : change.input.op = .join → ∃ before, change.before = some before ∧ before.status = .open ∧
      change.after.sourceSha = before.sourceSha ∧ change.after.approvedSha = before.approvedSha) :
    Sound (changes ++ [change]) after := by
  have same : after.approved = train.approved := by rw [ReleaseTrain.approved, ReleaseTrain.approved, source, approvedSha]
  constructor
  · exact fun sha known => sound.recorded_append change sha (source ▸ known)
  · exact fun sha known => sound.approved_append change sha (approvedSha ▸ known)
  · exact fun isOpen => sound.unpublished_append (status ▸ isOpen) op
  · intro isPublishing
    rw [same]
    exact sound.publishing (status ▸ isPublishing)
  · rintro isPublished ⟨other, member, publishes⟩
    rcases List.mem_append.mp member with old | new
    · rw [same]
      exact sound.published (status ▸ isPublished) ⟨other, old, publishes⟩
    · rw [List.mem_singleton] at new
      rw [new] at publishes
      exact (op publishes).elim
  · exact once
  · exact sound.joins_append joins

end

theorem commits_once {contributors : List Contributor} {entry : Contributor}
    (once : (contributors.map (·.commit)).Nodup) :
    ((contributors.filter (fun item => item.commit ≠ entry.commit) ++ [entry]).map (·.commit)).Nodup := by
  rw [List.map_append, List.nodup_append]
  refine ⟨once.sublist (List.filter_sublist.map _), List.nodup_singleton _, ?_⟩
  intro first member second last same
  obtain ⟨item, kept, rfl⟩ := List.mem_map.mp member
  rw [List.map_singleton, List.mem_singleton] at last
  simpa [same.trans last] using List.of_mem_filter kept

theorem Sound.change (sound : Sound changes train) (lives : isLiveTrain train = true)
    (changed : LiveChange train input actor after) :
    Sound (changes ++ [{ input, actor, before := some train, after }]) after := by
  have live : train.status = .open ∨ train.status = .publishing := of_decide_eq_true lives
  cases changed with
  | joined op isOpen =>
    exact sound.append rfl rfl rfl (commits_once sound.once) (by simp [op]) fun _ => ⟨train, rfl, isOpen, rfl, rfl⟩
  | left op =>
    exact sound.append rfl rfl rfl (sound.once.sublist (List.filter_sublist.map _)) (by simp [op]) (by simp [op])
  | @candidate sha at_ op may =>
    -- a train marked publishing is approved, so it does not reopen
    have isOpen : train.status = .open := by
      rcases may with isOpen | unapproved
      · exact isOpen
      · rcases live with isOpen | isPublishing
        · exact isOpen
        · rw [sound.publishing isPublishing] at unapproved
          cases unapproved
    constructor
    · intro other same
      exact ⟨_, List.mem_append_right _ (List.mem_singleton_self _), op, same⟩
    · exact sound.approved_append _
    · exact fun _ => sound.unpublished_append isOpen (by simp [op])
    · nofun
    · nofun
    · exact sound.once
    · exact sound.joins_append (by simp [op])
  | @approved sha at_ op operator isOpen source =>
    constructor
    · exact sound.recorded_append _
    · exact fun other same => sound.approve same ⟨op, operator, same⟩
    · exact fun _ => sound.unpublished_append isOpen (by simp [op])
    · intro isPublishing
      rw [isPublishing] at isOpen
      cases isOpen
    · intro isPublished
      rw [isPublished] at isOpen
      cases isOpen
    · exact sound.once
    · exact sound.joins_append (by simp [op])
  | publishing op approved =>
    constructor
    · exact sound.recorded_append _
    · exact sound.approved_append _
    · nofun
    · exact fun _ => approved
    · nofun
    · exact sound.once
    · exact sound.joins_append (by simp [op])
  | published op =>
    constructor
    · exact sound.recorded_append _
    · exact sound.approved_append _
    · nofun
    · nofun
    · rintro - ⟨other, member, publishes⟩
      rcases List.mem_append.mp member with old | new
      · rcases live with isOpen | isPublishing
        · exact (sound.unpublished isOpen other old publishes).elim
        · exact sound.publishing isPublishing
      · rw [List.mem_singleton] at new
        simp [new, op] at publishes
    · exact sound.once
    · exact sound.joins_append (by simp [op])
  | cancelled op =>
    constructor
    · exact sound.recorded_append _
    · exact sound.approved_append _
    · nofun
    · nofun
    · nofun
    · exact sound.once
    · apply sound.joins_append
      intro isJoin
      rw [show input.op = .join from isJoin] at op
      exact (op List.mem_cons_self).elim

end

theorem run_sound (requests : List Request) :
    (Product.run requests).record = none ∧ (Product.run requests).changes = [] ∨
      ∃ record, (Product.run requests).record = some record ∧ Sound (Product.run requests).changes record.value := by
  induction requests using List.reverseRecOn with
  | nil => exact .inl ⟨rfl, rfl⟩
  | append_singleton requests request ih =>
    rw [Product.run, List.foldl_concat, ← Product.run]
    unfold Product.step
    split
    · exact ih
    next record changed =>
    refine .inr ⟨record, rfl, ?_⟩
    dsimp only
    rcases changeReleaseTrain_change changed with ⟨op, fresh⟩ | ⟨op, before, known, lives, change⟩
    · rw [if_pos op]
      exact fresh.sound op
    · rw [if_neg op]
      rcases ih with ⟨none_, -⟩ | ⟨old, some_, sound⟩
      · rw [none_] at known
        cases known
      · rw [some_] at known ⊢
        cases known
        exact sound.change lives change

structure Approved (product : Product) : Prop where
  approved : ∀ record, product.record = some record → (record.value.status = .publishing ∨
    (record.value.status = .published ∧ ∃ change ∈ product.changes, change.input.op = .publishing)) →
    ApprovedByOperator product.changes record.value
  joins : ∀ change ∈ product.changes, change.input.op = .join → ∃ before, change.before = some before ∧
    before.status = .open ∧ change.after.sourceSha = before.sourceSha ∧ change.after.approvedSha = before.approvedSha
  once : ∀ record, product.record = some record → (record.value.contributors.map (·.commit)).Nodup

theorem trains_approved (requests : List Request) : Approved (Product.run requests) := by
  rcases run_sound requests with ⟨none_, empty⟩ | ⟨known, some_, sound⟩
  · constructor
    · simp [none_]
    · simp [empty]
    · simp [none_]
  · constructor
    · intro record same status
      rw [some_, Option.some_inj] at same
      subst same
      have approved : known.value.approved = true := by
        rcases status with isPublishing | ⟨isPublished, publishes⟩
        · exact sound.publishing isPublishing
        · exact sound.published isPublished publishes
      obtain ⟨sha, approvedSha, sourceSha⟩ := approved_iff.mp approved
      exact ⟨sha, sourceSha, approvedSha, sound.approved sha approvedSha⟩
    · exact sound.joins
    · intro record same
      rw [some_, Option.some_inj] at same
      subst same
      exact sound.once

namespace Sample

def captain : ReleaseTrainPane := ⟨"pane:jack", "Jack"⟩

def self : ReleaseTrainActor where
  roomId := "room:release1"
  pane := some captain
  paneSelf := true

def operator : ReleaseTrainActor where
  roomId := ""
  pane := none
  paneSelf := false
  operatorApproved := true

def ask (op : ReleaseTrainOp) (actor : ReleaseTrainActor) : Request where
  input := { op, version := some "1.1.5", commit := some "3707cca9af", sourceSha := some "c1537956b8" }
  actor := actor

end Sample

/-- A train is published with no candidate, and marked publishing with a change that joined after the approval. -/
theorem published_unapproved :
    (∃ record, (Product.run [Sample.ask .open Sample.self, Sample.ask .published Sample.self]).record = some record ∧
      record.value.status = .published ∧ record.value.sourceSha = none) ∧
    ∃ product, Product.run [Sample.ask .open Sample.self, Sample.ask .candidate Sample.self, Sample.ask .approve Sample.operator,
        Sample.ask .join Sample.self, Sample.ask .publishing Sample.self] = product ∧
      product.changes.map (·.input.op) = [.open, .candidate, .approve, .join, .publishing] ∧
      product.record.map (fun record => (record.value.status, record.value.approved, record.value.contributors.length)) =
        some (.publishing, true, 1) :=
  ⟨⟨_, rfl, rfl, rfl⟩, _, rfl, by decide +kernel, by decide +kernel⟩

end SpaceApp.Releases
