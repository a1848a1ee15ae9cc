import Mathlib.Data.List.Nodup

/-! Release trains (`release-trains.ts`): one release per product, and the operator's approval of its candidate.

The input is what the schema let through. An operation runs under the product's lock, and its write may be refused.
-/

set_option autoImplicit false

namespace SpaceApp.Releases

inductive ReleaseTrainOp where
  | status | open | join | leave | candidate | approve | publishing | published | cancel
  deriving DecidableEq

def ReleaseTrainOp.text : ReleaseTrainOp → String
  | .status => "status"
  | .open => "open"
  | .join => "join"
  | .leave => "leave"
  | .candidate => "candidate"
  | .approve => "approve"
  | .publishing => "publishing"
  | .published => "published"
  | .cancel => "cancel"

structure ReleaseTrainInput where
  op : ReleaseTrainOp
  product : String := "run-spaceapp"
  version : Option String := none
  commit : Option String := none
  sourceSha : Option String := none
  note : Option String := none
  deriving DecidableEq

structure ReleaseTrainPane where
  paneId : String
  name : String
  deriving DecidableEq

inductive TrainStatus where
  | open | publishing | published | cancelled
  deriving DecidableEq

def TrainStatus.toLowerCase : TrainStatus → String
  | .open => "open"
  | .publishing => "publishing"
  | .published => "published"
  | .cancelled => "cancelled"

structure Contributor where
  pane : ReleaseTrainPane
  commit : String
  note : Option String
  addedAt : String
  deriving DecidableEq

structure ReleaseTrain where
  product : String
  version : String
  status : TrainStatus
  captain : ReleaseTrainPane
  roomId : String
  sourceSha : Option String
  approvedSha : Option String
  contributors : List Contributor
  openedAt : String
  updatedAt : String
  deriving DecidableEq

/-- Who asks: a pane acting for itself, or the Room Agent or the operator, who name any pane. -/
structure ReleaseTrainActor where
  roomId : String
  pane : Option ReleaseTrainPane
  paneSelf : Bool
  operatorApproved : Bool := false
  deriving DecidableEq

def isLiveTrain (train : ReleaseTrain) : Bool := train.status = .open ∨ train.status = .publishing

/-- `approvedSha === sourceSha`: an absent approval is not a null candidate. -/
def ReleaseTrain.approved (train : ReleaseTrain) : Bool :=
  match train.approvedSha, train.sourceSha with
  | some approved, some source => approved = source
  | _, _ => false

/-- The message of a `SpaceConflictError`. -/
abbrev Conflict := String

def openTrain (live : Option ReleaseTrain) (input : ReleaseTrainInput) (actor : ReleaseTrainActor) (at_ : String) :
    Except Conflict ReleaseTrain :=
  match live with
  | some train =>
    .error (s!"{input.product} {train.version} is {train.status.toLowerCase} (captain {train.captain.name}): " ++
      "join it instead of cutting your own version.")
  | none =>
    match input.version, actor.pane with
    | none, _ => .error "Give the version to open."
    | some _, none => .error "Name the captain pane that cuts this release."
    | some version, some pane => .ok {
        product := input.product
        version := version
        status := .open
        captain := pane
        roomId := actor.roomId
        sourceSha := none
        approvedSha := none
        contributors := []
        openedAt := at_
        updatedAt := at_ }

def joinTrain (train : ReleaseTrain) (input : ReleaseTrainInput) (actor : ReleaseTrainActor) (at_ : String) :
    Except Conflict ReleaseTrain :=
  if train.status ≠ .open then
    .error s!"{input.product} {train.version} is already publishing: this change goes to the next release."
  else
    match actor.pane, input.commit with
    | some pane, some commit =>
      let entry : Contributor := { pane, commit := commit.toLower, note := input.note, addedAt := at_ }
      .ok { train with
        contributors := train.contributors.filter (fun item => item.commit ≠ entry.commit) ++ [entry]
        updatedAt := at_ }
    | _, _ => .error "Give the pane and the commit that joins the release."

def leaveTrain (train : ReleaseTrain) (input : ReleaseTrainInput) (actor : ReleaseTrainActor) (at_ : String) :
    Except Conflict ReleaseTrain :=
  match actor.pane with
  | none => .error "Name the pane that leaves the release."
  | some pane => .ok { train with
      contributors := train.contributors.filter fun item =>
        item.pane.paneId ≠ pane.paneId || input.commit.any fun commit => item.commit ≠ commit.toLower
      updatedAt := at_ }

/-- A train marked publishing without the approval of its candidate reopens with its new one. -/
def candidateTrain (train : ReleaseTrain) (input : ReleaseTrainInput) (at_ : String) : Except Conflict ReleaseTrain :=
  if train.status ≠ .open ∧ train.approved = true then
    .error s!"{input.product} {train.version} is already publishing."
  else
    match input.sourceSha with
    | none => .error "Give the sourceSha the candidate is built from."
    | some source => .ok { train with sourceSha := some source.toLower, status := .open, updatedAt := at_ }

def approveTrain (train : ReleaseTrain) (actor : ReleaseTrainActor) (at_ : String) : Except Conflict ReleaseTrain :=
  if actor.operatorApproved = false then
    .error "Only the operator approves a release, through Nous (a RELEASE decision in the Nous dock)."
  else if train.status ≠ .open ∨ train.sourceSha = none then
    .error "Record the candidate (op candidate with sourceSha) before the operator approves it."
  else .ok { train with approvedSha := train.sourceSha, updatedAt := at_ }

def publishingTrain (train : ReleaseTrain) (input : ReleaseTrainInput) (at_ : String) : Except Conflict ReleaseTrain :=
  match train.sourceSha with
  | none => .error "Record the candidate (op candidate with sourceSha) before publishing."
  | some source =>
    if train.approved = false then
      .error (s!"The operator has not approved {input.product} {train.version} at {String.ofList (source.toList.take 10)}: " ++
        "ask Nous to bring the release to the operator.")
    else .ok { train with status := .publishing, updatedAt := at_ }

def captainOps : List ReleaseTrainOp := [.candidate, .approve, .publishing, .published, .cancel]

def changeLive (train : ReleaseTrain) (input : ReleaseTrainInput) (actor : ReleaseTrainActor) (at_ : String) :
    Except Conflict ReleaseTrain :=
  match input.version.filter fun version => version ≠ train.version with
  | some version =>
    .error (s!"{input.product} {train.version} is the open release, not {version}: " ++
      s!"join {train.version} instead of cutting your own version.")
  | none =>
    if input.op ∈ captainOps ∧ actor.paneSelf = true ∧ actor.pane.map (·.paneId) ≠ some train.captain.paneId then
      .error s!"Only the captain ({train.captain.name}) can mark {input.product} {train.version} {input.op.text}."
    else
      match input.op with
      | .join => joinTrain train input actor at_
      | .leave => leaveTrain train input actor at_
      | .candidate => candidateTrain train input at_
      | .approve => approveTrain train actor at_
      | .publishing => publishingTrain train input at_
      | .published => .ok { train with status := .published, updatedAt := at_ }
      | _ => .ok { train with status := .cancelled, updatedAt := at_ }

/-- The record with its version; a version of 0 is no record. -/
structure TrainRecord where
  version : Nat
  value : ReleaseTrain
  deriving DecidableEq

/-- `writes`: the repository took the write. -/
def changeReleaseTrain (record : Option TrainRecord) (input : ReleaseTrainInput) (actor : ReleaseTrainActor) (at_ : String)
    (writes : Bool) : Except Conflict TrainRecord :=
  if input.op = .status then .error "status does not change a release train."
  else
    let live := (record.map (·.value)).filter isLiveTrain
    let next := match input.op, live with
      | .open, _ => openTrain live input actor at_
      | _, none => .error s!"No {input.product} release is open. Open one with op open."
      | _, some train => changeLive train input actor at_
    match next with
    | .error conflict => .error conflict
    | .ok train =>
      if writes then .ok { version := (record.map (·.version)).getD 0 + 1, value := train }
      else .error "The release train changed meanwhile. Read it again."

structure Change where
  input : ReleaseTrainInput
  actor : ReleaseTrainActor
  before : Option ReleaseTrain
  after : ReleaseTrain
  deriving DecidableEq

/-- One product's record, and the changes of its train since it opened, which no step reads. -/
structure Product where
  record : Option TrainRecord := none
  changes : List Change := []
  deriving DecidableEq

structure Request where
  input : ReleaseTrainInput
  actor : ReleaseTrainActor
  at_ : String := ""
  writes : Bool := true
  deriving DecidableEq

namespace Product

def step (product : Product) (request : Request) : Product :=
  match changeReleaseTrain product.record request.input request.actor request.at_ request.writes with
  | .error _ => product
  | .ok record =>
    let change : Change :=
      { input := request.input, actor := request.actor, before := product.record.map (·.value), after := record.value }
    { record := some record, changes := if request.input.op = .open then [change] else product.changes ++ [change] }

def run (requests : List Request) : Product := requests.foldl step {}

end Product

end SpaceApp.Releases
