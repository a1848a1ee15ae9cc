import Mathlib.Algebra.Order.Ring.Unbundled.Rat

/-! The compression pool (`pool.ts`): its queue, its slots, the jobs its workers run, and their timers.

A worker and its slot are one record; a worker that was terminated may still post what it has. A handler reads
one time. What happens is kept in a log beside the pool, which no handler reads.
-/

set_option autoImplicit false

namespace SpaceApp.Gateway.Compression

inductive TokenizerKind where
  | o200k | claude | gemini
  deriving DecidableEq

inductive CodeTextMode where
  | off | on
  deriving DecidableEq

structure BlockOptions where
  codeText : Option CodeTextMode := none
  lossy : Option Bool := none
  exact : Option Bool := none
  deriving DecidableEq

/-- `BlockRunOptions`; `onLate` says whether a callback was given. -/
structure BlockRunOptions extends BlockOptions where
  tokenizer : Option TokenizerKind := none
  onLate : Bool := false
  deriving DecidableEq

structure Posting where
  id : Nat
  text : String
  tokenizer : TokenizerKind
  block : BlockOptions
  deriving DecidableEq

structure Job where
  id : Nat
  text : String
  deadline : ℚ
  tokenizer : TokenizerKind
  block : BlockOptions
  onLate : Bool
  deriving DecidableEq

def Job.posting (job : Job) : Posting :=
  { id := job.id, text := job.text, tokenizer := job.tokenizer, block := job.block }

/-- What a worker posts: it is ready, or a job has a result or a failure. -/
inductive Message (R : Type) where
  | ready
  | done (posting : Posting) (outcome : Except String R)

structure Slot (R : Type) where
  busy : Bool := false
  ready : Bool := false
  booted : Bool := false
  inbox : List Posting := []
  outbox : List (Message R) := []

structure Running where
  job : Job
  slot : Nat
  soft : Option ℚ
  hard : ℚ

inductive Happening (R : Type) where
  | refused (deadline now : ℚ)
  | accepted (job : Job) (now : ℚ)
  | ready (worker : Nat)
  | posted (worker : Nat) (posting : Posting)
  | computed (worker : Nat) (posting : Posting) (outcome : Except String R)
  | settled (id : Nat) (value : Option R)
  | late (id : Nat) (result : R)
  | closed

structure Pool (R : Type) where
  hardLimitMs : ℚ
  workers : List (Slot R)
  slots : List Nat
  queue : List Job := []
  running : List Running := []
  nextId : Nat := 1
  closed : Bool := false
  settledJobs : List Nat := []
  expiries : List (Nat × ℚ) := []
  log : List (Happening R) := []

section

variable {R : Type}

/-- `new CompressionPool`: a slot for each worker, one at least. -/
def start (size : Nat) (hardLimitMs : ℚ) : Pool R :=
  { hardLimitMs, workers := List.replicate (max 1 size) {}, slots := List.range (max 1 size) }

def settle (pool : Pool R) (id : Nat) (value : Option R) : Pool R :=
  if id ∈ pool.settledJobs then pool
  else { pool with settledJobs := pool.settledJobs ++ [id], log := pool.log ++ [.settled id value] }

def setSlot (pool : Pool R) (worker : Nat) (slot : Slot R) : Pool R :=
  { pool with workers := pool.workers.set worker slot }

/-- The first job of the queue that is neither settled nor too late; those before it are settled. -/
def nextJob (now : ℚ) : List Job → Pool R → Pool R × Option Job
  | [], pool => (pool, none)
  | job :: rest, pool =>
    let shifted := { pool with queue := rest }
    if job.id ∈ pool.settledJobs ∨ job.deadline ≤ now then nextJob now rest (settle shifted job.id none)
    else (shifted, some job)

def assign (pool : Pool R) (now : ℚ) (worker : Nat) (slot : Slot R) (job : Job) : Pool R :=
  { setSlot pool worker { slot with busy := true, inbox := slot.inbox ++ [job.posting] } with
    running := pool.running ++ [{
      job
      slot := worker
      soft := some (now + max 1 (job.deadline - now))
      hard := now + max 1 (job.deadline - now) + pool.hardLimitMs }]
    log := pool.log ++ [.posted worker job.posting] }

def pumpSlots (now : ℚ) : List Nat → Pool R → Pool R
  | [], pool => pool
  | worker :: rest, pool =>
    match pool.workers[worker]? with
    | some slot =>
      if slot.busy ∨ ¬slot.ready then pumpSlots now rest pool
      else match nextJob now pool.queue pool with
        | (after, some job) => pumpSlots now rest (assign after now worker slot job)
        | (after, none) => after
    | none => pumpSlots now rest pool

def pump (now : ℚ) (pool : Pool R) : Pool R := pumpSlots now pool.slots pool

def BlockRunOptions.block (options : BlockRunOptions) : BlockOptions :=
  { codeText := options.codeText
    lossy := if options.codeText.isSome then some (options.lossy.getD false) else none
    exact := if options.exact = some true then some true else none }

def run (pool : Pool R) (text : String) (deadline : ℚ) (options : BlockRunOptions) (now : ℚ) : Pool R :=
  if pool.closed ∨ deadline ≤ now then { pool with log := pool.log ++ [.refused deadline now] }
  else
    let job : Job :=
      { id := pool.nextId
        text
        deadline
        tokenizer := options.tokenizer.getD .o200k
        block := options.block
        onLate := options.onLate }
    pump now { pool with
      nextId := pool.nextId + 1
      queue := pool.queue ++ [job]
      expiries := pool.expiries ++ [(job.id, now + max 1 (deadline - now))]
      log := pool.log ++ [.accepted job now] }

/-- The jobs of a slot are given up and the slot gets a new worker, unless the pool is closed. -/
def replace (pool : Pool R) (worker : Nat) (now : ℚ) : Pool R :=
  let gone := pool.running.filter fun entry => entry.slot = worker
  let left := { pool with running := pool.running.filter fun entry => entry.slot ≠ worker }
  let settled := gone.foldl (fun after entry => settle after entry.job.id none) left
  pump now (if worker ∈ settled.slots ∧ ¬settled.closed then
    { settled with
      workers := settled.workers ++ [{}]
      slots := settled.slots.set (settled.slots.idxOf worker) settled.workers.length }
  else settled)

/-- The answer of a job that runs no more: to its caller, or to `onLate` when the caller has its null. -/
def answer (pool : Pool R) (job : Job) (outcome : Except String R) : Pool R :=
  if job.id ∈ pool.settledJobs then
    match outcome with
    | .ok result => if job.onLate then { pool with log := pool.log ++ [.late job.id result] } else pool
    | .error _ => pool
  else settle pool job.id outcome.toOption

def handle (pool : Pool R) (worker : Nat) (slot : Slot R) (now : ℚ) : Message R → Pool R
  | .ready => pump now { setSlot pool worker { slot with ready := true } with log := pool.log ++ [.ready worker] }
  | .done posting outcome =>
    match pool.running.find? fun entry => entry.job.id = posting.id with
    | none => pool
    | some entry =>
      pump now (answer
        { setSlot pool worker { slot with busy := false } with
          running := pool.running.filter fun other => other.job.id ≠ posting.id } entry.job outcome)

inductive Event (R : Type) where
  | run (text : String) (deadline : ℚ) (options : BlockRunOptions) (now : ℚ)
  | boot (worker : Nat)
  | compute (worker : Nat) (outcome : Except String R)
  | message (worker : Nat) (now : ℚ)
  | error (worker : Nat) (now : ℚ)
  | soft (id : Nat)
  | hard (id : Nat) (now : ℚ)
  | expiry (id : Nat)
  | close

def step (pool : Pool R) : Event R → Pool R
  | .run text deadline options now => run pool text deadline options now
  | .boot worker =>
    match pool.workers[worker]? with
    | some slot =>
      if slot.booted then pool
      else setSlot pool worker { slot with booted := true, outbox := slot.outbox ++ [.ready] }
    | none => pool
  | .compute worker outcome =>
    match pool.workers[worker]? with
    | some slot =>
      match slot.inbox with
      | posting :: rest =>
        { setSlot pool worker { slot with inbox := rest, outbox := slot.outbox ++ [.done posting outcome] } with
          log := pool.log ++ [.computed worker posting outcome] }
      | [] => pool
    | none => pool
  | .message worker now =>
    match pool.workers[worker]? with
    | some slot =>
      match slot.outbox with
      | message :: rest =>
        let taken := { slot with outbox := rest }
        handle (setSlot pool worker taken) worker taken now message
      | [] => pool
    | none => pool
  | .error worker now => if worker < pool.workers.length then replace pool worker now else pool
  | .soft id =>
    match pool.running.find? fun entry => entry.job.id = id with
    | some entry =>
      if entry.soft.isSome then
        settle { pool with running := pool.running.map fun other =>
          if other.job.id = id then { other with soft := none } else other } id none
      else pool
    | none => pool
  | .hard id now =>
    match pool.running.find? fun entry => entry.job.id = id with
    | some entry => replace pool entry.slot now
    | none => pool
  | .expiry id =>
    if id ∈ pool.expiries.map Prod.fst then
      let fired := { pool with expiries := pool.expiries.filter fun timer => timer.1 ≠ id }
      if id ∈ pool.queue.map Job.id then
        settle { fired with queue := pool.queue.filter fun job => job.id ≠ id } id none
      else fired
    else pool
  | .close =>
    pool.queue.foldl (fun after job => settle after job.id none)
      { pool with closed := true, queue := [], log := pool.log ++ [.closed] }

def runs (pool : Pool R) (events : List (Event R)) : Pool R := events.foldl step pool

end

end SpaceApp.Gateway.Compression
