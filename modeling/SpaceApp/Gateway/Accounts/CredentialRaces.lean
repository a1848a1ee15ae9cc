import SpaceApp.Foundation.Reach
import SpaceApp.Gateway.Accounts.Credentials
import SpaceApp.Gateway.Router.Soundness

/-! Refreshes, refusals and sign-ins of one account in every order: which refresh tokens go
out, what callers get, and which re-login marks outlive a sign-in.
-/

set_option autoImplicit false

namespace SpaceApp.Gateway.Accounts

open SpaceApp.Foundation SpaceApp.Gateway.Router

/-- A call takes a fresh number and a record that was read before. -/
def CallsRead (world : CredentialWorld) : CredentialEvent → Prop
  | .credentials id record | .refreshRejectedToken id record _ | .markPermanentFailure id record _ _ =>
      world.calls id = none ∧ record ∈ world.records
  | _ => True

def Granted.version : Granted → Option Nat
  | credentials version _ => some version
  | account record => some record.version
  | _ => none

/-- No refresh token goes out again after a refresh with it succeeded. -/
def TokensOnce (world : CredentialWorld) : Prop := ∀ presentation ∈ world.presentations, presentation.spent = false

/-- Every caller gets credentials that storage held during its call. -/
def GrantsHeld (world : CredentialWorld) : Prop :=
  ∀ grant ∈ world.grants, ∀ version, grant.granted.version = some version → version ∈ grant.held

/-- Every caller gets credentials that storage held during its call, or those of its record. -/
def GrantsHeldOrOwn (world : CredentialWorld) : Prop :=
  ∀ grant ∈ world.grants, ∀ version, grant.granted.version = some version →
    version ∈ grant.held ∨ version = grant.record.version

def marksAccount (status : BalancerAccountStatus) : Bool :=
  status = .reauthRequired || status = .deactivated

/-- A mark in storage was written after the last sign-in replaced the credentials, and one in
the runtime was set after the last `signedIn`. -/
structure MarksRecent (world : CredentialWorld) : Prop where
  row : marksAccount world.row.status = true → ∀ since, world.signInStoredAt = some since →
    ∃ marked, world.rowMarkedAt = some marked ∧ since < marked
  runtime : ∀ status, world.runtimeStatus = some status → marksAccount status = true →
    ∀ since, world.signedInAt = some since → ∃ marked, world.runtimeMarkedAt = some marked ∧ since < marked

structure CredentialsSafe (world : CredentialWorld) : Prop where
  tokens : TokensOnce world
  grants : GrantsHeldOrOwn world
  marks : MarksRecent world

section

variable (spent : List Nat) (nextVersion rowVersion : Nat)

def HeldOrOwn (call : Call) (version : Nat) : Prop := version ∈ call.held ∨ version = call.record.version

def VerdictSound (call : Call) : Verdict → Prop
  | .result version _ _ => HeldOrOwn call version
  | .rejection _ _ => True

def ContinuationSound (call : Call) : Continuation → Prop
  | .credentials version _ _ _ => HeldOrOwn call version
  | .done => True

/-- What a stage may rely on. Under the lock the stored version is unspent, unless the call
is about to replace it. -/
def StageSound (call : Call) : Stage → Prop
  | .pausing granted => ∀ version, granted.version = some version → HeldOrOwn call version
  | .waiting _ => True
  | .asking _ fresh =>
      fresh.version ∈ call.held ∧ fresh.version < nextVersion ∧ fresh.version ∉ spent ∧ rowVersion ∉ spent
  | .leaving verdict none => VerdictSound call verdict ∧ rowVersion ∉ spent
  | .leaving _ (some _) => True
  | .resuming verdict => VerdictSound call verdict
  | .recording _ _ then_ | .expiring _ then_ => ContinuationSound call then_
  | .marking _ then_ => ContinuationSound call then_ ∧ rowVersion ∉ spent

structure CallSound (call : Call) : Prop where
  seen : rowVersion ∈ call.held
  stage : StageSound spent nextVersion rowVersion call call.stage

end

/-- The invariant of every run; all stamps are below `limit`. -/
structure CredentialsSound (limit : Nat) (world : CredentialWorld) : Prop where
  locked : ∀ id call, world.calls id = some call → call.stage.locked = true → world.holder = some id
  calls : ∀ id call, world.calls id = some call → CallSound world.spent world.nextVersion world.row.version call
  free : world.holder = none → world.row.version ∉ world.spent
  below : ∀ version ∈ world.spent, version < world.nextVersion
  rowBelow : world.row.version < world.nextVersion
  storedStamp : ∀ since, world.signInStoredAt = some since → since < limit
  signedStamp : ∀ since, world.signedInAt = some since → since < limit
  safe : CredentialsSafe world

section

variable {spent : List Nat} {nextVersion rowVersion : Nat} {call : Call}

theorem HeldOrOwn.hold {version : Nat} (before : HeldOrOwn call version) (other : Nat) :
    HeldOrOwn (CredentialWorld.hold other call) version :=
  before.imp_left (List.mem_cons_of_mem other)

theorem CallSound.stored (sound : CallSound spent nextVersion rowVersion call)
    (below : ∀ version ∈ spent, version < nextVersion) :
    CallSound spent (nextVersion + 1) nextVersion (CredentialWorld.hold nextVersion call) := by
  have unspent : nextVersion ∉ spent := fun member => absurd (below nextVersion member) (lt_irrefl _)
  have stage := sound.stage
  refine ⟨List.mem_cons_self, ?_⟩
  simp only [CredentialWorld.hold]
  cases named : call.stage with
  | pausing granted =>
    rw [named] at stage
    exact fun version same => (stage version same).hold nextVersion
  | waiting errand => trivial
  | asking errand fresh =>
    rw [named] at stage
    exact ⟨List.mem_cons_of_mem _ stage.1, stage.2.1.trans (Nat.lt_succ_self _), stage.2.2.1, unspent⟩
  | leaving verdict update =>
    rw [named] at stage
    cases update with
    | some update => trivial
    | none =>
      refine ⟨?_, unspent⟩
      cases verdict with
      | result version credentials code => exact HeldOrOwn.hold stage.1 nextVersion
      | rejection outcome refusal => trivial
  | resuming verdict =>
    rw [named] at stage
    cases verdict with
    | result version credentials code => exact HeldOrOwn.hold stage nextVersion
    | rejection outcome refusal => trivial
  | recording code rejected then_ =>
    rw [named] at stage
    cases then_ with
    | done => trivial
    | credentials version credentials updated code => exact HeldOrOwn.hold stage nextVersion
  | expiring expiredAt then_ =>
    rw [named] at stage
    cases then_ with
    | done => trivial
    | credentials version credentials updated code => exact HeldOrOwn.hold stage nextVersion
  | marking expiredAt then_ =>
    rw [named] at stage
    refine ⟨?_, unspent⟩
    cases then_ with
    | done => trivial
    | credentials version credentials updated code => exact HeldOrOwn.hold stage.1 nextVersion

theorem CallSound.unlocked (sound : CallSound spent nextVersion rowVersion call) (outside : call.stage.locked = false)
    (others : List Nat) : CallSound others nextVersion rowVersion call := by
  have stage := sound.stage
  refine ⟨sound.seen, ?_⟩
  cases named : call.stage with
  | asking errand fresh => simp [named, Stage.locked] at outside
  | leaving verdict update => simp [named, Stage.locked] at outside
  | marking expiredAt then_ => simp [named, Stage.locked] at outside
  | _ =>
    rw [named] at stage
    exact stage

end

section

variable {limit : Nat} {world : CredentialWorld} {id : Nat} {call : Call} (options : CredentialOptions)

section
variable (sound : CredentialsSound limit world)

include sound

theorem CredentialsSound.setStage {stage : Stage}
    (callSound : CallSound world.spent world.nextVersion world.row.version { call with stage })
    (lock : stage.locked = true → world.holder = some id) : CredentialsSound limit (world.setStage id call stage) where
  locked other found at_ locked := by
    by_cases same : other = id
    · subst same
      simp only [CredentialWorld.setStage, Function.update_self, Option.some.injEq] at at_
      subst at_
      exact lock locked
    · simp only [CredentialWorld.setStage, Function.update_of_ne same] at at_
      exact sound.locked other found at_ locked
  calls other found at_ := by
    by_cases same : other = id
    · subst same
      simp only [CredentialWorld.setStage, Function.update_self, Option.some.injEq] at at_
      subst at_
      exact callSound
    · simp only [CredentialWorld.setStage, Function.update_of_ne same] at at_
      exact sound.calls other found at_
  __ := sound
  safe := { sound.safe with marks := ⟨sound.safe.marks.row, sound.safe.marks.runtime⟩ }

theorem CredentialsSound.grant {granted : Granted}
    (right : ∀ version, granted.version = some version → HeldOrOwn call version) :
    CredentialsSound limit (world.grant id call granted) where
  locked other found at_ locked := by
    by_cases same : other = id
    · subst same
      simp [CredentialWorld.grant] at at_
    · simp only [CredentialWorld.grant, Function.update_of_ne same] at at_
      exact sound.locked other found at_ locked
  calls other found at_ := by
    by_cases same : other = id
    · subst same
      simp [CredentialWorld.grant] at at_
    · simp only [CredentialWorld.grant, Function.update_of_ne same] at at_
      exact sound.calls other found at_
  __ := sound
  safe := by
    refine ⟨sound.safe.tokens, ?_, ⟨sound.safe.marks.row, sound.safe.marks.runtime⟩⟩
    intro grant member version same
    rcases List.mem_cons.mp member with rfl | member
    · exact right version same
    · exact sound.safe.grants grant member version same

theorem CredentialsSound.storeCredentials (row : CredentialRecord)
    (marks : marksAccount row.status = true → ∀ since, world.signInStoredAt = some since →
      ∃ marked, world.rowMarkedAt = some marked ∧ since < marked) :
    CredentialsSound limit (world.storeCredentials row) where
  locked other found at_ locked := by
    obtain ⟨before, there, rfl⟩ := Option.map_eq_some_iff.mp at_
    exact sound.locked other before there locked
  calls other found at_ := by
    obtain ⟨before, there, rfl⟩ := Option.map_eq_some_iff.mp at_
    exact (sound.calls other before there).stored sound.below
  free _ := fun member => absurd (sound.below _ member) (lt_irrefl _)
  below version member := (sound.below version member).trans (Nat.lt_succ_self _)
  rowBelow := Nat.lt_succ_self _
  __ := sound
  safe := { sound.safe with marks := ⟨marks, sound.safe.marks.runtime⟩ }

theorem CredentialsSound.withRow {row : CredentialRecord} {marked : Option Nat} (same : row.version = world.row.version)
    (marks : marksAccount row.status = true → ∀ since, world.signInStoredAt = some since →
      ∃ at_, marked = some at_ ∧ since < at_) :
    CredentialsSound limit { world with row, rowMarkedAt := marked } where
  __ := sound
  calls other found at_ := by
    have callSound := sound.calls other found at_
    rw [← same] at callSound
    exact callSound
  free none_ := by
    have unspent := sound.free none_
    rw [← same] at unspent
    exact unspent
  rowBelow := by
    have below := sound.rowBelow
    rw [← same] at below
    exact below
  safe := { sound.safe with marks := ⟨marks, sound.safe.marks.runtime⟩ }

theorem CredentialsSound.withRuntime {status : Option BalancerAccountStatus} {marked : Option Nat}
    (marks : ∀ known, status = some known → marksAccount known = true → ∀ since, world.signedInAt = some since →
      ∃ at_, marked = some at_ ∧ since < at_) :
    CredentialsSound limit { world with runtimeStatus := status, runtimeMarkedAt := marked } where
  __ := sound
  safe := { sound.safe with marks := ⟨sound.safe.marks.row, marks⟩ }

theorem CredentialsSound.lock (free : world.holder = none) (id : Nat) :
    CredentialsSound limit { world with holder := some id } where
  locked other found at_ locked := by
    have held := sound.locked other found at_ locked
    rw [free] at held
    cases held
  __ := sound
  free none_ := by cases none_
  safe := { sound.safe with marks := ⟨sound.safe.marks.row, sound.safe.marks.runtime⟩ }

theorem CredentialsSound.mark (stamped : limit ≤ world.steps)
    (code : JsString) : CredentialsSound limit (world.mark code) := by
  refine sound.withRuntime ?_
  intro known same marks since signed
  exact ⟨world.steps, rfl, (sound.signedStamp since signed).trans_le stamped⟩

theorem CredentialsSound.recordFailure (stamped : limit ≤ world.steps)
    (code : JsString) : CredentialsSound limit (world.recordFailure code) := by
  unfold CredentialWorld.recordFailure
  split
  · exact sound
  · refine sound.withRow rfl ?_
    intro marks since stored
    exact ⟨world.steps, rfl, (sound.storedStamp since stored).trans_le stamped⟩

theorem CredentialsSound.pauseThen {record : CredentialRecord} {granted : Granted}
    (seen : world.row.version ∈ call.held) (right : ∀ version, granted.version = some version → HeldOrOwn call version) :
    CredentialsSound limit (world.pauseThen id call record granted) := by
  unfold CredentialWorld.pauseThen
  split
  · exact sound.grant right
  · exact sound.setStage ⟨seen, right⟩ (fun locked => by cases locked)

end

theorem thrown_version (code : JsString) (version : Nat) (same : (Granted.thrown code).version = some version) :
    HeldOrOwn call version := by cases same

section
variable (sound : CredentialsSound limit world)

include sound

theorem CredentialsSound.returnCredentials {version : Nat} (credentials : StoredCredentials)
    (updated : CredentialRecord) (seen : world.row.version ∈ call.held) (right : HeldOrOwn call version) :
    CredentialsSound limit (world.returnCredentials options id call version credentials updated) := by
  unfold CredentialWorld.returnCredentials
  split
  · exact sound.pauseThen seen (thrown_version _)
  · refine sound.grant ?_
    intro other same
    obtain rfl : version = other := Option.some.inj same
    exact right

theorem CredentialsSound.goOn {then_ : Continuation} (seen : world.row.version ∈ call.held)
    (right : ContinuationSound call then_) : CredentialsSound limit (world.goOn options id call then_) := by
  cases then_ with
  | done => exact sound.grant (fun version same => by cases same)
  | credentials version credentials updated code =>
    simp only [CredentialWorld.goOn]
    split
    · exact sound.grant (thrown_version _)
    · exact sound.returnCredentials options credentials updated seen right

theorem CredentialsSound.fail (stamped : limit ≤ world.steps) (code : JsString) (accessTokenRejected : Bool)
    {then_ : Continuation} (seen : world.row.version ∈ call.held) (right : ContinuationSound call then_) :
    CredentialsSound limit (world.fail id call code accessTokenRejected then_) :=
  (sound.mark stamped code).setStage ⟨seen, right⟩ (fun locked => by cases locked)

theorem CredentialsSound.vacate (there : world.calls id = some call)
    (inside : call.stage.locked = true) (unspent : world.row.version ∉ world.spent) :
    CredentialsSound limit { world with holder := none, calls := Function.update world.calls id none } where
  locked other found at_ locked := by
    by_cases same : other = id
    · subst same
      simp at at_
    · simp only [Function.update_of_ne same] at at_
      have holds := sound.locked other found at_ locked
      rw [sound.locked id call there inside] at holds
      exact absurd (Option.some.inj holds).symm same
  calls other found at_ := by
    by_cases same : other = id
    · subst same
      simp at at_
    · simp only [Function.update_of_ne same] at at_
      exact sound.calls other found at_
  free _ := unspent
  __ := sound
  safe := { sound.safe with marks := ⟨sound.safe.marks.row, sound.safe.marks.runtime⟩ }

theorem CredentialsSound.spend (there : world.calls id = some call) {errand : Errand} {fresh : CredentialRecord}
    (asking : call.stage = .asking errand fresh) : CredentialsSound limit { world with
      spent := fresh.version :: world.spent
      calls := Function.update world.calls id none } := by
  have inside : call.stage.locked = true := by
    rw [asking]
    rfl
  have holder := sound.locked id call there inside
  have stage := (sound.calls id call there).stage
  rw [asking] at stage
  have outside : ∀ other found, other ≠ id → world.calls other = some found → found.stage.locked = false := by
    intro other found apart at_
    by_contra locked
    have holds := sound.locked other found at_ (by simpa using locked)
    rw [holder] at holds
    exact apart (Option.some.inj holds).symm
  exact {
    locked := by
      intro other found at_ locked
      by_cases same : other = id
      · subst same
        simp at at_
      · simp only [Function.update_of_ne same] at at_
        exact sound.locked other found at_ locked
    calls := by
      intro other found at_
      by_cases same : other = id
      · subst same
        simp at at_
      · simp only [Function.update_of_ne same] at at_
        exact (sound.calls other found at_).unlocked (outside other found same at_) _
    free := by
      intro none_
      rw [holder] at none_
      cases none_
    below := by
      intro version member
      rcases List.mem_cons.mp member with rfl | member
      · exact stage.2.1
      · exact sound.below version member
    __ := sound
    safe := { sound.safe with marks := ⟨sound.safe.marks.row, sound.safe.marks.runtime⟩ } }

theorem CredentialsSound.present (unspent : world.row.version ∉ world.spent) : CredentialsSound limit { world with
      presentations := { version := world.row.version, spent := world.spent.contains world.row.version } ::
        world.presentations } where
  __ := sound
  safe := by
    refine ⟨?_, sound.safe.grants, ⟨sound.safe.marks.row, sound.safe.marks.runtime⟩⟩
    intro presentation member
    rcases List.mem_cons.mp member with rfl | member
    · simpa using unspent
    · exact sound.safe.tokens presentation member

end

end

section

variable {limit : Nat} {world : CredentialWorld} {id : Nat} {call : Call} (options : CredentialOptions)

theorem started_seen (world : CredentialWorld) (record : CredentialRecord) :
    world.row.version ∈ (world.started record).held := List.mem_singleton_self _

theorem CredentialsSound.begin (sound : CredentialsSound limit world) (seen : world.row.version ∈ call.held) :
    CredentialsSound limit (world.begin options id call) := by
  unfold CredentialWorld.begin
  split
  · exact sound.grant (thrown_version _)
  split
  · exact sound.pauseThen seen (thrown_version _)
  split
  · refine sound.grant ?_
    intro version same
    exact .inr (Option.some.inj same).symm
  · exact sound.setStage ⟨seen, trivial⟩ (fun locked => by cases locked)

theorem CredentialsSound.beginRejected (sound : CredentialsSound limit world) (stamped : limit ≤ world.steps)
    (seen : world.row.version ∈ call.held) (code : JsString) :
    CredentialsSound limit (world.beginRejected options id call code) := by
  unfold CredentialWorld.beginRejected
  dsimp only
  split
  · exact sound.fail stamped code _ seen trivial
  · exact sound.setStage ⟨seen, trivial⟩ (fun locked => by cases locked)

theorem CredentialsSound.enter (sound : CredentialsSound limit world) (there : world.calls id = some call)
    (free : world.holder = none) : CredentialsSound limit (world.enter options id call call.stage) := by
  have callSound := sound.calls id call there
  have unspent := sound.free free
  have locked := sound.lock free id
  have asks : ∀ errand, StageSound world.spent world.nextVersion world.row.version call (.asking errand world.row) :=
    fun errand => ⟨callSound.seen, sound.rowBelow, unspent, unspent⟩
  unfold CredentialWorld.enter
  split
  · split
    · exact (locked.present unspent).setStage ⟨callSound.seen, asks .credentials⟩ (fun _ => rfl)
    · exact locked.setStage ⟨callSound.seen, .inl callSound.seen, unspent⟩ (fun _ => rfl)
  · next code _ =>
    split
    · exact locked.setStage ⟨callSound.seen, trivial, unspent⟩ (fun _ => rfl)
    split
    · exact locked.setStage ⟨callSound.seen, trivial, unspent⟩ (fun _ => rfl)
    · exact (locked.present unspent).setStage ⟨callSound.seen, asks (.rejected code)⟩ (fun _ => rfl)
  · next expiredAt then_ named =>
    have continues := callSound.stage
    rw [named] at continues
    exact locked.setStage ⟨callSound.seen, continues, unspent⟩ (fun _ => rfl)
  · exact sound

theorem setStage_again (id : Nat) (call : Call) (stage : Stage) :
    CredentialWorld.setStage { world with calls := Function.update world.calls id none } id call stage =
      world.setStage id call stage := by
  simp [CredentialWorld.setStage]

theorem CredentialsSound.answered (sound : CredentialsSound limit world) (there : world.calls id = some call)
    {errand : Errand} {fresh : CredentialRecord} (asking : call.stage = .asking errand fresh)
    (answer : RefreshAnswer) : CredentialsSound limit (world.answered id call fresh errand answer) := by
  have callSound := sound.calls id call there
  have stage := callSound.stage
  rw [asking] at stage
  have holder : world.holder = some id := by
    refine sound.locked id call there ?_
    rw [asking]
    rfl
  unfold CredentialWorld.answered
  split
  · rw [← setStage_again]
    exact (sound.spend there asking).setStage ⟨callSound.seen, trivial⟩ (fun _ => holder)
  · rw [← setStage_again]
    exact (sound.spend there asking).setStage ⟨callSound.seen, trivial⟩ (fun _ => holder)
  · split
    · exact sound.setStage ⟨callSound.seen, .inr rfl, stage.2.2.2⟩ (fun _ => holder)
    · exact sound.setStage ⟨callSound.seen, .inl stage.1, stage.2.2.2⟩ (fun _ => holder)
  · split
    · exact sound.setStage ⟨callSound.seen, trivial, stage.2.2.2⟩ (fun _ => holder)
    · exact sound.setStage ⟨callSound.seen, trivial, stage.2.2.2⟩ (fun _ => holder)

theorem goOn_again (id : Nat) (call : Call) (then_ : Continuation) :
    CredentialWorld.goOn options { world with calls := Function.update world.calls id none } id call then_ =
      world.goOn options id call then_ := by
  cases then_ with
  | done => simp [CredentialWorld.goOn, CredentialWorld.grant]
  | credentials version credentials updated code =>
    simp only [CredentialWorld.goOn, CredentialWorld.balancerStatus, CredentialWorld.returnCredentials,
      CredentialWorld.pauseThen, CredentialWorld.grant, CredentialWorld.setStage, Function.update_idem]
    rfl

theorem renewed_marks {limit : Nat} {world : CredentialWorld} (sound : CredentialsSound limit world)
    (update : CredentialUpdate) : marksAccount (CredentialWorld.renewed world.row update).status = true →
      ∀ since, world.signInStoredAt = some since → ∃ marked, world.rowMarkedAt = some marked ∧ since < marked := by
  intro marks
  refine sound.safe.marks.row ?_
  unfold CredentialWorld.renewed at marks
  split at marks
  · cases marks
  · exact marks

theorem CredentialsSound.left (sound : CredentialsSound limit world) (there : world.calls id = some call) :
    CredentialsSound limit (world.left options id call call.stage) := by
  have callSound := sound.calls id call there
  have stage := callSound.stage
  unfold CredentialWorld.left
  split
  · next verdict named =>
    rw [named] at stage
    have vacated := sound.vacate there (by rw [named]; rfl) stage.2
    rw [← setStage_again]
    exact vacated.setStage ⟨callSound.seen, stage.1⟩ (fun locked => by cases locked)
  · next verdict update named =>
    have stored := sound.storeCredentials _ (renewed_marks sound update)
    have moved : (world.storeCredentials (CredentialWorld.renewed world.row update)).calls id =
        some (CredentialWorld.hold world.nextVersion call) := by
      simp [CredentialWorld.storeCredentials, there]
    have unspent : world.nextVersion ∉ world.spent := fun member => absurd (sound.below _ member) (lt_irrefl _)
    have vacated := stored.vacate moved (by rw [CredentialWorld.hold, named]; rfl) unspent
    rw [← setStage_again]
    refine vacated.setStage ⟨List.mem_cons_self, ?_⟩ (fun locked => by cases locked)
    cases verdict with
    | result version credentials code => exact .inl List.mem_cons_self
    | rejection outcome refusal => trivial
  · next expiredAt then_ named =>
    rw [named] at stage
    have vacated := sound.vacate there (by rw [named]; rfl) stage.2
    rw [← goOn_again]
    refine CredentialsSound.goOn options (CredentialsSound.withRow vacated ?_ ?_) ?_ stage.1
    · cases expiredAt <;> rfl
    · cases expiredAt with
      | none => exact sound.safe.marks.row
      | some time => exact sound.safe.marks.row
    · cases expiredAt with
      | none => exact callSound.seen
      | some time => exact callSound.seen
  · exact sound

theorem CredentialsSound.resumed (sound : CredentialsSound limit world) (stamped : limit ≤ world.steps)
    (there : world.calls id = some call) {verdict : Verdict} (resuming : call.stage = .resuming verdict) :
    CredentialsSound limit (world.resumed options id call verdict) := by
  have callSound := sound.calls id call there
  have stage := callSound.stage
  rw [resuming] at stage
  unfold CredentialWorld.resumed
  split
  · exact sound.fail stamped _ _ callSound.seen stage
  · exact sound.returnCredentials options _ _ callSound.seen stage
  · split
    · exact sound.pauseThen callSound.seen (fun version same => by cases same)
    · refine CredentialsSound.grant (sound.withRuntime ?_) ?_
      · intro known same marks
        split at same
        · cases same
          cases marks
        · exact sound.safe.marks.runtime known same marks
      · intro version same
        obtain rfl : world.row.version = version := Option.some.inj same
        exact .inl callSound.seen
  · exact sound.grant (fun version same => by cases same)
  · exact sound.fail stamped _ _ callSound.seen trivial

theorem recordFailure_version (code : JsString) : (world.recordFailure code).row.version = world.row.version := by
  unfold CredentialWorld.recordFailure
  split <;> rfl

theorem CredentialsSound.recorded (sound : CredentialsSound limit world) (stamped : limit ≤ world.steps)
    (there : world.calls id = some call) : CredentialsSound limit (world.recorded options id call call.stage) := by
  have callSound := sound.calls id call there
  have stage := callSound.stage
  unfold CredentialWorld.recorded
  split
  · next granted named =>
    rw [named] at stage
    have paused : CredentialsSound limit { world with
        row := { world.row with status := .paused }, rowMarkedAt := world.rowMarkedAt } :=
      sound.withRow rfl fun marks => absurd (show marksAccount .paused = true from marks) (by decide)
    exact paused.grant stage
  · next code accessTokenRejected then_ named =>
    rw [named] at stage
    have failed := sound.recordFailure stamped code
    have seen : (world.recordFailure code).row.version ∈ call.held := by
      rw [recordFailure_version]
      exact callSound.seen
    split
    · exact failed.setStage ⟨seen, stage⟩ (fun locked => by cases locked)
    · exact failed.goOn options seen stage
  · exact sound

theorem CredentialsSound.signInStored (sound : CredentialsSound world.steps world) (credentials : StoredCredentials)
    (planType : Option String) (lastRefreshAt expiresAt : Option ℚ) :
    CredentialsSound (world.steps + 1) (world.signInStored credentials planType lastRefreshAt expiresAt) := by
  have unmarked : marksAccount (if world.row.status = .paused then .paused else .active) ≠ true := by
    split <;> decide
  have stored := sound.storeCredentials {
    version := world.row.version
    credentials
    status := if world.row.status = .paused then .paused else .active
    planType := planType <|> world.row.planType
    lastRefreshAt
    credentialsExpiresAt := expiresAt } (fun marks => absurd marks unmarked)
  have marks : MarksRecent (world.signInStored credentials planType lastRefreshAt expiresAt) :=
    ⟨fun marks => absurd marks unmarked, stored.safe.marks.runtime⟩
  exact {
    __ := stored
    storedStamp := fun since same => by
      obtain rfl : world.steps = since := Option.some.inj same
      exact Nat.lt_succ_self _
    signedStamp := fun since same => (stored.signedStamp since same).trans (Nat.lt_succ_self _)
    safe := { stored.safe with marks := marks } }

theorem CredentialsSound.signedIn (sound : CredentialsSound world.steps world) : CredentialsSound (world.steps + 1)
      { world with runtimeStatus := none, runtimeMarkedAt := none, signedInAt := some world.steps } where
  __ := sound
  storedStamp since same := (sound.storedStamp since same).trans (Nat.lt_succ_self _)
  signedStamp since same := by
    obtain rfl : world.steps = since := Option.some.inj same
    exact Nat.lt_succ_self _
  safe := { sound.safe with marks := ⟨sound.safe.marks.row, fun known none_ => by cases none_⟩ }

theorem CredentialsSound.later (sound : CredentialsSound limit world) : CredentialsSound (limit + 1) world :=
  { sound with
    storedStamp := fun since same => (sound.storedStamp since same).trans (Nat.lt_succ_self _)
    signedStamp := fun since same => (sound.signedStamp since same).trans (Nat.lt_succ_self _) }

theorem CredentialsSound.aside (sound : CredentialsSound limit world) (records : List CredentialRecord) (clock : ℚ) :
    CredentialsSound limit { world with records, clock } :=
  { sound with safe := { sound.safe with marks := ⟨sound.safe.marks.row, sound.safe.marks.runtime⟩ } }

theorem CredentialsSound.withCall (sound : CredentialsSound limit world) {step : Call → CredentialWorld}
    (keeps : ∀ call, world.calls id = some call → CredentialsSound limit (step call)) :
    CredentialsSound limit (world.withCall id step) := by
  unfold CredentialWorld.withCall
  split
  · exact sound
  · next call there => exact keeps call there

theorem CredentialsSound.perform (sound : CredentialsSound world.steps world) (event : CredentialEvent) :
    CredentialsSound (world.steps + 1) (world.perform options event) := by
  cases event with
  | read => exact sound.later.aside _ _
  | credentials id record => exact (sound.begin options (started_seen world record)).later
  | refreshRejectedToken id record code =>
    exact (sound.beginRejected options (le_refl _) (started_seen world record) code).later
  | markPermanentFailure id record code accessTokenRejected =>
    have failed : CredentialsSound world.steps
        (world.fail id (world.started record) code accessTokenRejected .done) :=
      sound.fail (le_refl _) code accessTokenRejected (started_seen world record) trivial
    exact failed.later
  | enter id =>
    simp only [CredentialWorld.perform]
    split
    · exact sound.later
    · next free =>
      have none_ : world.holder = none := by simpa using free
      exact (sound.withCall fun call there => sound.enter options there none_).later
  | answered id answer =>
    refine (sound.withCall fun call there => ?_).later
    split
    · next errand fresh asking => exact sound.answered there asking answer
    · exact sound
  | left id => exact (sound.withCall fun call there => sound.left options there).later
  | resumed id =>
    refine (sound.withCall fun call there => ?_).later
    split
    · next verdict resuming => exact sound.resumed options (le_refl _) there resuming
    · exact sound
  | recorded id => exact (sound.withCall fun call there => sound.recorded options (le_refl _) there).later
  | signInStored credentials planType lastRefreshAt expiresAt =>
    exact sound.signInStored credentials planType lastRefreshAt expiresAt
  | signedIn => exact sound.signedIn
  | tick now => exact sound.later.aside _ _

end

theorem start_credentialsSound {world : CredentialWorld} (start : CredentialWorld.start world) :
    CredentialsSound world.steps world := by
  obtain ⟨row, clock, rfl⟩ := start
  exact {
    locked := fun id call none_ => by cases none_
    calls := fun id call none_ => by cases none_
    free := fun _ => List.not_mem_nil
    below := fun version member => absurd member List.not_mem_nil
    rowBelow := Nat.zero_lt_one
    storedStamp := fun since none_ => by cases none_
    signedStamp := fun since none_ => by cases none_
    safe := {
      tokens := fun presentation member => absurd member List.not_mem_nil
      grants := fun grant member => absurd member List.not_mem_nil
      marks := {
        row := fun _ since none_ => by cases none_
        runtime := fun known none_ => by cases none_ } } }

def sampleCredentials (token : String) : StoredCredentials where
  accessToken := token
  refreshToken := some token

def credentialOptions : CredentialOptions where
  needsRefresh _ credentials _ := credentials.refreshToken = some "old"
  platform := samplePlatform

def sampleRecord : CredentialRecord where
  version := 0
  credentials := sampleCredentials "old"

def credentialStart : CredentialWorld where
  row := sampleRecord
  clock := 1000

def credentialRun (events : List CredentialEvent) : CredentialWorld :=
  events.foldl (CredentialWorld.step credentialOptions) credentialStart

def sampleRefresh : List CredentialEvent :=
  [.read, .credentials 0 sampleRecord, .enter 0, .answered 0 (.refreshed { stored := sampleCredentials "new" }),
    .left 0, .resumed 0]

def freshOptions : CredentialOptions where
  needsRefresh _ _ _ := false
  platform := samplePlatform

def signInAnew : CredentialEvent := .signInStored (sampleCredentials "new") none none none

/-- A refusal noted under the lock and recorded after a sign-in marks the new credentials. -/
example : (credentialRun [.read, .credentials 0 sampleRecord, .enter 0, .answered 0 (.failed (some (js "invalid_grant"))),
    .left 0, signInAnew, .signedIn, .resumed 0, .recorded 0]).row.status = .reauthRequired := by decide +kernel

end SpaceApp.Gateway.Accounts
