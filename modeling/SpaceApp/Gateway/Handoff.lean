import Mathlib.Data.List.Basic

/-! Zero-downtime handoff of the gateway (`supervisor.ts`): the current worker, the pending one and those that drain.

A handler runs in one piece, and signals, worker events and timers come in any order. A message that does not
reach its worker makes the supervisor terminate that worker instead.
-/

set_option autoImplicit false

namespace SpaceApp.Gateway.Handoff

inductive DrainReason where
  | reload | stop
  deriving DecidableEq

structure Told where
  worker : Nat
  reason : DrainReason
  reached : Bool
  deriving DecidableEq

structure Worker where
  handoff : Bool
  listened : Bool := false
  timer : Bool := handoff
  killed : Bool := false
  exited : Bool := false
  deriving DecidableEq

/-- A worker is named by its place among the forked ones. -/
structure Supervisor where
  workers : List Worker
  current : Option Nat
  pending : Option Nat := none
  draining : List Nat := []
  stopping : Bool := false
  restarts : Nat := 0
  told : List Told := []
  ended : Bool := false
  deriving DecidableEq

def start : Supervisor := { workers := [{ handoff := false }], current := some 0 }

def drain (supervisor : Supervisor) (worker : Nat) (reason : DrainReason) (reached : Bool) : Supervisor :=
  { supervisor with
    draining := if worker ∈ supervisor.draining then supervisor.draining else supervisor.draining ++ [worker]
    told := supervisor.told ++ [{ worker, reason, reached }] }

/-- `if (stopping && !current && !pending && draining.size === 0) process.exit(0)` -/
def quit (supervisor : Supervisor) : Supervisor :=
  if supervisor.stopping ∧ supervisor.current = none ∧ supervisor.pending = none ∧ supervisor.draining = [] then
    { supervisor with ended := true }
  else supervisor

def launchCurrent (supervisor : Supervisor) : Supervisor :=
  { supervisor with
    workers := supervisor.workers ++ [{ handoff := false }]
    current := some supervisor.workers.length }

def hangup (supervisor : Supervisor) : Supervisor :=
  if supervisor.stopping ∨ supervisor.pending ≠ none then supervisor
  else if supervisor.current = none then launchCurrent supervisor
  else
    { supervisor with
      workers := supervisor.workers ++ [{ handoff := true }]
      pending := some supervisor.workers.length }

def listening (supervisor : Supervisor) (id : Nat) (reached : Bool) : Supervisor :=
  match supervisor.workers[id]? with
  | some worker =>
    if worker.handoff ∧ ¬worker.listened then
      let heard :=
        { supervisor with workers := supervisor.workers.set id { worker with listened := true, timer := false } }
      if supervisor.pending = some id then
        let taken := { heard with pending := none, current := some id }
        match supervisor.current with
        | some previous => drain taken previous .reload reached
        | none => taken
      else heard
    else supervisor
  | none => supervisor

def startTimeout (supervisor : Supervisor) (id : Nat) : Supervisor :=
  match supervisor.workers[id]? with
  | some worker =>
    if worker.timer then
      if supervisor.pending = some id then
        { supervisor with
          workers := supervisor.workers.set id { worker with timer := false, killed := true }
          pending := none }
      else { supervisor with workers := supervisor.workers.set id { worker with timer := false } }
    else supervisor
  | none => supervisor

def exit (supervisor : Supervisor) (id : Nat) : Supervisor :=
  match supervisor.workers[id]? with
  | some worker =>
    if worker.exited then supervisor
    else
      let gone :=
        { supervisor with
          workers := supervisor.workers.set id { worker with exited := true }
          draining := supervisor.draining.filter fun other => other ≠ id }
      quit (if supervisor.pending = some id then { gone with pending := none }
        else if supervisor.current = some id then
          { gone with
            current := none
            restarts := if supervisor.stopping then supervisor.restarts else supervisor.restarts + 1 }
        else gone)
  | none => supervisor

def restart (supervisor : Supervisor) : Supervisor :=
  if supervisor.restarts = 0 then supervisor
  else
    let fired := { supervisor with restarts := supervisor.restarts - 1 }
    if ¬supervisor.stopping ∧ supervisor.current = none then launchCurrent fired else fired

/-- `stop`; each worker's channel takes the message or not. -/
def stop (supervisor : Supervisor) (reaches : Nat → Bool) : Supervisor :=
  if supervisor.stopping then supervisor
  else
    let all := supervisor.current.toList ++ supervisor.pending.toList ++ supervisor.draining
    quit (all.foldl (fun after worker => drain after worker .stop (reaches worker)) { supervisor with stopping := true })

inductive Event where
  | hangup
  | listening (worker : Nat) (reached : Bool)
  | startTimeout (worker : Nat)
  | exit (worker : Nat)
  | restart
  | stop (reaches : Nat → Bool)

/-- Nothing happens in a process that has ended. -/
def step (supervisor : Supervisor) (event : Event) : Supervisor :=
  if supervisor.ended then supervisor
  else match event with
    | .hangup => hangup supervisor
    | .listening worker reached => listening supervisor worker reached
    | .startTimeout worker => startTimeout supervisor worker
    | .exit worker => exit supervisor worker
    | .restart => restart supervisor
    | .stop reaches => stop supervisor reaches

def run (supervisor : Supervisor) (events : List Event) : Supervisor := events.foldl step supervisor

/-! ## What holds in every state -/

def Supervisor.alive (supervisor : Supervisor) (id : Nat) : Prop :=
  ∃ worker, supervisor.workers[id]? = some worker ∧ worker.exited = false

structure Tidy (supervisor : Supervisor) : Prop where
  current : ∀ id, supervisor.current = some id → supervisor.alive id
  pending : ∀ id, supervisor.pending = some id → ∃ worker, supervisor.workers[id]? = some worker ∧
    worker.exited = false ∧ worker.handoff = true ∧ worker.listened = false
  draining : ∀ id ∈ supervisor.draining, supervisor.alive id
  apart : ∀ id, supervisor.pending = some id → supervisor.current ≠ some id
  awaited : ∀ id worker, supervisor.workers[id]? = some worker → worker.handoff = true → worker.listened = false →
    worker.exited = false → worker.killed = false → supervisor.pending = some id
  remembered : ∀ id worker, supervisor.workers[id]? = some worker → worker.exited = false → worker.killed = false →
    supervisor.current = some id ∨ supervisor.pending = some id ∨ id ∈ supervisor.draining
  told : ∀ id ∈ supervisor.draining, ∃ told ∈ supervisor.told, told.worker = id
  served : supervisor.stopping = false → supervisor.current = none → 0 < supervisor.restarts
  stopping : supervisor.stopping = true → ∀ id, supervisor.pending = some id → id ∈ supervisor.draining

/-- The process ends at once when a stop leaves nobody to wait for. -/
structure Steady (supervisor : Supervisor) : Prop extends Tidy supervisor where
  ended : supervisor.ended = true → supervisor.stopping = true ∧ supervisor.current = none ∧ supervisor.pending = none ∧
    supervisor.draining = []
  quit : supervisor.stopping = true → supervisor.current = none → supervisor.pending = none →
    supervisor.draining = [] → supervisor.ended = true

section

variable {supervisor : Supervisor}

section

variable {workers : List Worker} {id : Nat}

theorem getElem?_fork {forked worker : Worker} (found : (workers ++ [forked])[id]? = some worker) :
    workers[id]? = some worker ∨ (id = workers.length ∧ worker = forked) := by
  rcases Nat.lt_or_ge id workers.length with inside | beyond
  · rw [List.getElem?_append_left inside] at found
    exact .inl found
  · have last : id = workers.length := by
      have bound := (List.getElem?_eq_some_iff.mp found).1
      simp at bound
      omega
    subst last
    simp at found
    exact .inr ⟨rfl, found.symm⟩

theorem fork_getElem? {worker : Worker} (forked : Worker) (found : workers[id]? = some worker) :
    (workers ++ [forked])[id]? = some worker := by
  have inside := (List.getElem?_eq_some_iff.mp found).1
  rw [List.getElem?_append_left inside, found]

theorem id_lt {worker : Worker} (found : workers[id]? = some worker) :
    id < workers.length := (List.getElem?_eq_some_iff.mp found).1

end

theorem Steady.launchCurrent (steady : Steady supervisor) (free : supervisor.current = none)
    (runs : supervisor.stopping = false) (going : supervisor.ended = false) (restarts : Nat) :
    Steady (launchCurrent { supervisor with restarts := restarts }) where
  current id held := by
    obtain rfl : supervisor.workers.length = id := by simpa [Handoff.launchCurrent] using held
    exact ⟨{ handoff := false }, by simp [Handoff.launchCurrent], rfl⟩
  pending id held := by
    obtain ⟨worker, found, rest⟩ := steady.pending id held
    exact ⟨worker, fork_getElem? _ found, rest⟩
  draining id inside := by
    obtain ⟨worker, found, rest⟩ := steady.draining id inside
    exact ⟨worker, fork_getElem? _ found, rest⟩
  apart id held := by
    obtain ⟨worker, found, -⟩ := steady.pending id held
    have inside := id_lt found
    simp only [Handoff.launchCurrent, ne_eq, Option.some.injEq]
    omega
  awaited id worker found handoff := by
    rcases getElem?_fork found with old | ⟨-, rfl⟩
    · exact steady.awaited id worker old handoff
    · cases handoff
  remembered id worker found lives unkilled := by
    rcases getElem?_fork found with old | ⟨rfl, -⟩
    · rcases steady.remembered id worker old lives unkilled with held | held | held
      · simp [free] at held
      · exact .inr (.inl held)
      · exact .inr (.inr held)
    · exact .inl rfl
  told := steady.told
  served := by simp [Handoff.launchCurrent]
  stopping stops := by simp [Handoff.launchCurrent, runs] at stops
  ended passed := by simp [Handoff.launchCurrent, going] at passed
  quit stops := by simp [Handoff.launchCurrent, runs] at stops

theorem Steady.hangup (steady : Steady supervisor) (going : supervisor.ended = false) : Steady (hangup supervisor) := by
  unfold Handoff.hangup
  split
  · exact steady
  · next may =>
    simp only [not_or, Bool.not_eq_true, not_not] at may
    split
    · next free => exact steady.launchCurrent free may.1 going supervisor.restarts
    · exact {
        current := fun id held => by
          obtain ⟨worker, found, lives⟩ := steady.current id held
          exact ⟨worker, fork_getElem? _ found, lives⟩
        pending := fun id held => by
          obtain rfl : supervisor.workers.length = id := by simpa using held
          exact ⟨{ handoff := true }, by simp, rfl, rfl, rfl⟩
        draining := fun id inside => by
          obtain ⟨worker, found, lives⟩ := steady.draining id inside
          exact ⟨worker, fork_getElem? _ found, lives⟩
        apart := fun id held same => by
          obtain rfl : supervisor.workers.length = id := by simpa using held
          obtain ⟨worker, found, -⟩ := steady.current _ same
          have inside := id_lt found
          omega
        awaited := fun id worker found handoff listened lives unkilled => by
          rcases getElem?_fork found with old | ⟨rfl, -⟩
          · have held := steady.awaited id worker old handoff listened lives unkilled
            simp [may.2] at held
          · rfl
        remembered := fun id worker found lives unkilled => by
          rcases getElem?_fork found with old | ⟨rfl, -⟩
          · rcases steady.remembered id worker old lives unkilled with held | held | held
            · exact .inl held
            · simp [may.2] at held
            · exact .inr (.inr held)
          · exact .inr (.inl rfl)
        __ := steady
        stopping := fun stops => by simp [may.1] at stops
        ended := fun passed => by simp [going] at passed
        quit := fun stops => by simp [may.1] at stops }

theorem set_getElem? {workers : List Worker} {id other : Nat} {worker changed found : Worker}
    (old : workers[id]? = some worker) (now : (workers.set id changed)[other]? = some found) :
    (other = id ∧ found = changed) ∨ (other ≠ id ∧ workers[other]? = some found) := by
  by_cases same : other = id
  · subst same
    have inside := id_lt old
    exact .inl ⟨rfl, by simpa [inside, eq_comm] using now⟩
  · exact .inr ⟨same, by rwa [List.getElem?_set_ne (Ne.symm same)] at now⟩

theorem getElem?_set_iff {workers : List Worker} {id : Nat} {worker changed : Worker}
    (old : workers[id]? = some worker) : (workers.set id changed)[id]? = some changed := by
  have inside := id_lt old
  simp [inside]

theorem alive_set {id other : Nat} {worker changed : Worker} (old : supervisor.workers[id]? = some worker)
    (same : changed.exited = worker.exited) (lives : supervisor.alive other) :
    ∃ found, (supervisor.workers.set id changed)[other]? = some found ∧ found.exited = false := by
  obtain ⟨found, there, alive⟩ := lives
  by_cases own : other = id
  · subst own
    obtain rfl : worker = found := Option.some.inj (old.symm.trans there)
    exact ⟨changed, getElem?_set_iff old, same.trans alive⟩
  · exact ⟨found, (List.getElem?_set_ne (Ne.symm own)).trans there, alive⟩

theorem mem_drain (supervisor : Supervisor) (worker : Nat) (reason : DrainReason) (reached : Bool) (id : Nat) :
    id ∈ (drain supervisor worker reason reached).draining ↔ id ∈ supervisor.draining ∨ id = worker := by
  simp only [drain]
  split
  · next there => exact ⟨.inl, fun either => either.elim (fun held => held) fun same => same ▸ there⟩
  · simp

theorem told_drain {supervisor : Supervisor} {worker : Nat} {reason : DrainReason} {reached : Bool}
    (told : ∀ id ∈ supervisor.draining, ∃ told ∈ supervisor.told, told.worker = id) :
    ∀ id ∈ (drain supervisor worker reason reached).draining,
      ∃ told ∈ (drain supervisor worker reason reached).told, told.worker = id := by
  intro id there
  rcases (mem_drain supervisor worker reason reached id).mp there with old | rfl
  · obtain ⟨told, before, same⟩ := told id old
    exact ⟨told, List.mem_append_left _ before, same⟩
  · exact ⟨⟨id, reason, reached⟩, by simp [drain], rfl⟩

theorem Tidy.drain (tidy : Tidy supervisor) {worker : Nat} (lives : supervisor.alive worker) (reason : DrainReason)
    (reached : Bool) : Tidy (drain supervisor worker reason reached) := by
  have inside := mem_drain supervisor worker reason reached
  exact {
    __ := tidy
    draining := fun id there => ((inside id).mp there).elim (tidy.draining id) fun same => same ▸ lives
    remembered := fun id found there alive unkilled => by
      rcases tidy.remembered id found there alive unkilled with held | held | held
      · exact .inl held
      · exact .inr (.inl held)
      · exact .inr (.inr ((inside id).mpr (.inl held)))
    told := told_drain tidy.told
    stopping := fun stops id held => (inside id).mpr (.inl (tidy.stopping stops id held)) }

section

variable (steady : Steady supervisor)

include steady

/-- The pending worker has listened, or was killed. -/
theorem Steady.unpended (going : supervisor.ended = false) {id : Nat} {worker changed : Worker}
    (found : supervisor.workers[id]? = some worker) (held : supervisor.pending = some id)
    (exited : changed.exited = worker.exited) (settled : changed.listened = true ∨ changed.killed = true)
    {current : Option Nat} {draining : List Nat} {told : List Told}
    (lives : ∀ other, current = some other ∨ other ∈ draining → supervisor.alive other)
    (kept : ∀ other, supervisor.current = some other ∨ other ∈ supervisor.draining → current = some other ∨ other ∈ draining)
    (own : changed.killed = true ∨ current = some id) (all : ∀ other ∈ draining, ∃ entry ∈ told, entry.worker = other)
    (served : supervisor.stopping = false → current = none → 0 < supervisor.restarts) : Steady { supervisor with
      workers := supervisor.workers.set id changed
      pending := none
      current := current
      draining := draining
      told := told } where
  current other same := alive_set found exited (lives other (.inl same))
  pending := nofun
  draining other there := alive_set found exited (lives other (.inr there))
  apart := nofun
  awaited other now there handoff unheard lives unkilled := by
    rcases set_getElem? found there with ⟨-, rfl⟩ | ⟨apart, before⟩
    · simp [unheard, unkilled] at settled
    · have same := steady.awaited other now before handoff unheard lives unkilled
      simp [held, Ne.symm apart] at same
  remembered other now there lives unkilled := by
    rcases set_getElem? found there with ⟨rfl, rfl⟩ | ⟨apart, before⟩
    · exact .inl (own.resolve_left (by simp [unkilled]))
    · have either := kept other
      rcases steady.remembered other now before lives unkilled with same | same | same
      · exact (either (.inl same)).imp_right .inr
      · simp [held, Ne.symm apart] at same
      · exact (either (.inr same)).imp_right .inr
  told := all
  served := served
  stopping := nofun
  ended passed := by simp [going] at passed
  -- a worker pending at the stop drains until its exit
  quit stops free _ empty := by
    have inside := kept id (.inr (steady.stopping stops id held))
    simp [show current = none from free, show draining = [] from empty] at inside

theorem Steady.heard {id : Nat} {worker changed : Worker} (found : supervisor.workers[id]? = some worker)
    (idle : supervisor.pending ≠ some id) (exited : changed.exited = worker.exited)
    (killed : changed.killed = worker.killed) (handoff : changed.handoff = worker.handoff)
    (listened : changed.listened = false → worker.listened = false) :
    Steady { supervisor with workers := supervisor.workers.set id changed } where
  current other held := alive_set found exited (steady.current other held)
  pending other held := by
    have apart : other ≠ id := by
      rintro rfl
      exact idle held
    obtain ⟨now, there, rest⟩ := steady.pending other held
    exact ⟨now, (List.getElem?_set_ne (Ne.symm apart)).trans there, rest⟩
  draining other inside := alive_set found exited (steady.draining other inside)
  __ := steady
  awaited other now there := by
    rcases set_getElem? found there with ⟨rfl, rfl⟩ | ⟨-, before⟩
    · rw [handoff, exited, killed]
      exact fun first unheard => steady.awaited other worker found first (listened unheard)
    · exact steady.awaited other now before
  remembered other now there := by
    rcases set_getElem? found there with ⟨rfl, rfl⟩ | ⟨-, before⟩
    · rw [exited, killed]
      exact steady.remembered other worker found
    · exact steady.remembered other now before

theorem Steady.listening (going : supervisor.ended = false) (id : Nat) (reached : Bool) :
    Steady (listening supervisor id reached) := by
  unfold Handoff.listening
  split
  · next worker found =>
    split
    · split
      · next held =>
        obtain ⟨_, there, lives, -⟩ := steady.pending id held
        have own : supervisor.alive id := ⟨_, there, lives⟩
        have heard := @Steady.unpended _ steady going id worker { worker with listened := true, timer := false } found held rfl
          (.inl rfl)
        cases before : supervisor.current with
        | none =>
          refine heard ?_ ?_ (.inr rfl) steady.told nofun
          · rintro other (same | inside)
            · exact Option.some.inj same ▸ own
            · exact steady.draining other inside
          · exact fun other either => .inr (either.resolve_left (by simp [before]))
        | some previous =>
          have inside := mem_drain supervisor previous .reload reached
          refine heard ?_ ?_ (.inr rfl) (told_drain steady.told) nofun
          · rintro other (same | there)
            · exact Option.some.inj same ▸ own
            · exact ((inside other).mp there).elim (steady.draining other) fun same => steady.current other (same ▸ before)
          · rintro other (same | there)
            · exact .inr ((inside other).mpr (.inr (Option.some.inj (same.symm.trans before))))
            · exact .inr ((inside other).mpr (.inl there))
      · next idle => exact steady.heard found idle rfl rfl rfl (by simp)
    · exact steady
  · exact steady

theorem Steady.startTimeout (going : supervisor.ended = false) (id : Nat) : Steady (startTimeout supervisor id) := by
  unfold Handoff.startTimeout
  split
  · next worker found =>
    split
    · split
      · next held =>
        exact @Steady.unpended _ steady going id worker { worker with timer := false, killed := true } found held rfl (.inr rfl)
          _ _ _ (fun other => (·.elim (steady.current other) (steady.draining other))) (fun _ either => either) (.inl rfl)
          steady.told steady.served
      · next idle => exact steady.heard found idle rfl rfl rfl fun unheard => unheard
    · exact steady
  · exact steady

end

theorem Tidy.quit (tidy : Tidy supervisor) (going : supervisor.ended = false) : Steady (quit supervisor) := by
  unfold Handoff.quit
  split
  · next all => exact { tidy with ended := fun _ => all, quit := fun _ _ _ _ => rfl }
  · next waits =>
    exact { tidy with
      ended := fun passed => by simp [going] at passed
      quit := fun stops free idle empty => absurd ⟨stops, free, idle, empty⟩ waits }

theorem Steady.exit (steady : Steady supervisor) (going : supervisor.ended = false) (id : Nat) :
    Steady (exit supervisor id) := by
  unfold Handoff.exit
  split
  · next worker found =>
    split
    · exact steady
    · have alive : ∀ other, other ≠ id → supervisor.alive other → ∃ now,
          (supervisor.workers.set id { worker with exited := true })[other]? = some now ∧ now.exited = false := by
        rintro other apart ⟨now, there, lives⟩
        exact ⟨now, (List.getElem?_set_ne (Ne.symm apart)).trans there, lives⟩
      -- what holds of the workers, whoever is current or pending after the exit
      have after : ∀ (current pending : Option Nat) (restarts : Nat),
          (∀ other, current = some other ↔ supervisor.current = some other ∧ other ≠ id) →
          (∀ other, pending = some other ↔ supervisor.pending = some other ∧ other ≠ id) →
          (supervisor.stopping = false → current = none → 0 < restarts) →
          Tidy { supervisor with
            workers := supervisor.workers.set id { worker with exited := true }
            current := current
            pending := pending
            draining := supervisor.draining.filter fun other => other ≠ id
            restarts := restarts } := by
        intro current pending restarts currents pendings served
        exact {
          current := fun other held => by
            obtain ⟨before, apart⟩ := (currents other).mp held
            exact alive other apart (steady.current other before)
          pending := fun other held => by
            obtain ⟨before, apart⟩ := (pendings other).mp held
            obtain ⟨now, there, rest⟩ := steady.pending other before
            exact ⟨now, (List.getElem?_set_ne (Ne.symm apart)).trans there, rest⟩
          draining := fun other inside => by
            have there : other ∈ supervisor.draining ∧ other ≠ id := by simpa using inside
            exact alive other there.2 (steady.draining other there.1)
          apart := fun other held same =>
            steady.apart other ((pendings other).mp held).1 ((currents other).mp same).1
          awaited := fun other now there handoff unheard lives unkilled => by
            rcases set_getElem? found there with ⟨-, rfl⟩ | ⟨apart, before⟩
            · cases lives
            · exact (pendings other).mpr ⟨steady.awaited other now before handoff unheard lives unkilled, apart⟩
          remembered := fun other now there lives unkilled => by
            rcases set_getElem? found there with ⟨-, rfl⟩ | ⟨apart, before⟩
            · cases lives
            · rcases steady.remembered other now before lives unkilled with same | same | same
              · exact .inl ((currents other).mpr ⟨same, apart⟩)
              · exact .inr (.inl ((pendings other).mpr ⟨same, apart⟩))
              · exact .inr (.inr (by simp [same, apart]))
          told := fun other inside => steady.told other (by simp at inside; exact inside.1)
          served := served
          stopping := fun stops other held => by
            obtain ⟨before, apart⟩ := (pendings other).mp held
            simp [steady.stopping stops other before, apart] }
      split
      · next held =>
        refine (after supervisor.current none supervisor.restarts (fun other => ?_) (fun other => ?_) steady.served).quit
          going
        · exact ⟨fun same => ⟨same, fun own => steady.apart id held (own ▸ same)⟩, And.left⟩
        · simp [held, eq_comm]
      · next idle =>
        have pendings : ∀ other, supervisor.pending = some other ↔ supervisor.pending = some other ∧ other ≠ id :=
          fun other => ⟨fun same => ⟨same, fun own => idle (own ▸ same)⟩, And.left⟩
        split
        · next held =>
          refine (after none supervisor.pending _ (fun other => ?_) pendings fun runs _ => ?_).quit going
          · simp [held, eq_comm]
          · simp [runs]
        · next other_ =>
          exact (after supervisor.current supervisor.pending supervisor.restarts
            (fun other => ⟨fun same => ⟨same, fun own => other_ (own ▸ same)⟩, And.left⟩) pendings steady.served).quit
            going
  · exact steady

theorem Steady.restart (steady : Steady supervisor) (going : supervisor.ended = false) : Steady (restart supervisor) := by
  unfold Handoff.restart
  split
  · exact steady
  · split
    · next may =>
      simp only [Bool.not_eq_true] at may
      exact steady.launchCurrent may.2 may.1 going (supervisor.restarts - 1)
    · next held =>
      exact { steady with
        served := fun runs free => by simp [show supervisor.stopping = false from runs, show supervisor.current = none from free] at held }

theorem tidy_drains (reaches : Nat → Bool) (workers : List Nat) (lives : ∀ worker ∈ workers, supervisor.alive worker)
    (tidy : Tidy supervisor) :
    Tidy (workers.foldl (fun after worker => drain after worker .stop (reaches worker)) supervisor) := by
  induction workers generalizing supervisor with
  | nil => exact tidy
  | cons worker rest ih =>
    refine ih (fun other inside => lives other (List.mem_cons_of_mem _ inside)) ?_
    exact tidy.drain (lives worker (List.mem_cons_self ..)) .stop (reaches worker)

/-- Draining some workers touches what drains and what was told, nothing else. -/
theorem drains_frame (reaches : Nat → Bool) (workers : List Nat) :
    ∃ draining new, (∀ id, id ∈ draining ↔ id ∈ supervisor.draining ∨ id ∈ workers) ∧
      (∀ entry ∈ new, entry.reason = DrainReason.stop) ∧
      ∀ stopping, workers.foldl (fun after worker => drain after worker .stop (reaches worker))
          { supervisor with stopping := stopping } =
        { supervisor with stopping := stopping, draining := draining, told := supervisor.told ++ new } := by
  induction workers generalizing supervisor with
  | nil => exact ⟨supervisor.draining, [], by simp, by simp, by simp⟩
  | cons worker rest ih =>
    obtain ⟨draining, new, members, entries, same⟩ := @ih (drain supervisor worker .stop (reaches worker))
    refine ⟨draining, ⟨worker, .stop, reaches worker⟩ :: new, fun id => ?_, by simpa using entries, fun stopping => ?_⟩
    · rw [members, mem_drain, List.mem_cons, or_assoc]
    · refine (same stopping).trans ?_
      simp [drain]

theorem Steady.stop (steady : Steady supervisor) (going : supervisor.ended = false) (reaches : Nat → Bool) :
    Steady (stop supervisor reaches) := by
  unfold Handoff.stop
  split
  · exact steady
  · next runs =>
    simp only [Bool.not_eq_true] at runs
    generalize told : supervisor.current.toList ++ supervisor.pending.toList ++ supervisor.draining = all
    have members : ∀ id, id ∈ all ↔ (supervisor.current = some id ∨ supervisor.pending = some id) ∨
        id ∈ supervisor.draining := by simp [← told, or_assoc]
    have lives : ∀ id ∈ all, supervisor.alive id := by
      intro id inside
      rcases (members id).mp inside with (held | held) | held
      · exact steady.current id held
      · obtain ⟨worker, found, lives, -⟩ := steady.pending id held
        exact ⟨worker, found, lives⟩
      · exact steady.draining id held
    have tidy := tidy_drains reaches all lives steady.toTidy
    obtain ⟨draining, log, inside, -, same⟩ := @drains_frame supervisor reaches all
    have plain := same false
    rw [show ({ supervisor with stopping := false } : Supervisor) = supervisor by simp [← runs]] at plain
    rw [plain] at tidy
    dsimp only
    rw [same true]
    refine Tidy.quit { tidy with
      served := fun stops => by simp at stops
      stopping := fun _ id held => ?_ } going
    exact (inside id).mpr (.inr ((members id).mpr (.inl (.inr held))))

theorem Steady.step (steady : Steady supervisor) (event : Event) : Steady (step supervisor event) := by
  unfold Handoff.step
  split
  · exact steady
  · next going =>
    simp only [Bool.not_eq_true] at going
    cases event with
    | hangup => exact steady.hangup going
    | listening worker reached => exact steady.listening going worker reached
    | startTimeout worker => exact steady.startTimeout going worker
    | exit worker => exact steady.exit going worker
    | restart => exact steady.restart going
    | stop reaches => exact steady.stop going reaches

theorem steady_start : Steady start where
  current id held := by
    obtain rfl : 0 = id := by simpa [start] using held
    exact ⟨{ handoff := false }, rfl, rfl⟩
  pending := nofun
  draining := nofun
  apart := nofun
  awaited id worker found handoff := by
    obtain rfl : worker = { handoff := false } := by simpa [start] using List.mem_of_getElem? found
    cases handoff
  remembered id worker found _ _ := by
    have inside := id_lt found
    simp [start] at inside
    exact .inl (by simp [start, inside])
  told := nofun
  served := nofun
  stopping := nofun
  ended := nofun
  quit := nofun

theorem Steady.run (steady : Steady supervisor) (events : List Event) : Steady (run supervisor events) := by
  induction events generalizing supervisor with
  | nil => exact steady
  | cons event rest ih => exact ih (steady.step event)

/-! ## Who is told to drain, and the end -/

/-- Some worker took over in this state, and the one it replaced is told so. -/
def Replaced (supervisor : Supervisor) (told : Told) : Prop :=
  ∃ next worker, supervisor.current = some next ∧ next ≠ told.worker ∧ supervisor.workers[next]? = some worker ∧
    worker.listened = true ∧ worker.exited = false

/-! ## The stop -/

def Supervisor.gone (supervisor : Supervisor) (id : Nat) : Prop :=
  ∃ worker, supervisor.workers[id]? = some worker ∧ worker.exited = true

theorem gone_set {id other : Nat} {worker changed : Worker} (found : supervisor.workers[id]? = some worker)
    (same : worker.exited = true → changed.exited = true) (gone : supervisor.gone other) :
    ∃ now, (supervisor.workers.set id changed)[other]? = some now ∧ now.exited = true := by
  obtain ⟨there, before, exited⟩ := gone
  by_cases own : other = id
  · subst own
    obtain rfl : worker = there := Option.some.inj (found.symm.trans before)
    exact ⟨changed, getElem?_set_iff found, same exited⟩
  · exact ⟨there, (List.getElem?_set_ne (Ne.symm own)).trans before, exited⟩

theorem quit_workers (supervisor : Supervisor) : (quit supervisor).workers = supervisor.workers ∧
    (quit supervisor).stopping = supervisor.stopping := by
  unfold quit
  split <;> exact ⟨rfl, rfl⟩

/-- The records of the workers in one handler's run: only a launch adds one. -/
inductive Records (supervisor after : Supervisor) : Prop where
  | same (workers : after.workers = supervisor.workers)
  | forked (worker : Worker) (workers : after.workers = supervisor.workers ++ [worker])
      (runs : supervisor.stopping = false)
  | changed (id : Nat) (worker now : Worker) (found : supervisor.workers[id]? = some worker)
      (workers : after.workers = supervisor.workers.set id now) (exited : worker.exited = true → now.exited = true)

/-- What one handler leaves: it tells no reload but of a takeover, and a stop is never taken back. -/
structure Handled (supervisor after : Supervisor) : Prop where
  records : Records supervisor after
  stops : supervisor.stopping = true → after.stopping = true
  told : ∃ new, after.told = supervisor.told ++ new ∧ ∀ told ∈ new, told.reason = .reload → Replaced after told

section

variable {after : Supervisor}

theorem Handled.silent (records : Records supervisor after) (stops : supervisor.stopping = true → after.stopping = true)
    (same : after.told = supervisor.told) : Handled supervisor after :=
  ⟨records, stops, [], by simp [same], by simp⟩

theorem Handled.quit (handled : Handled supervisor after) : Handled supervisor (quit after) := by
  unfold Handoff.quit
  split
  · refine ⟨?_, handled.stops, handled.told⟩
    cases handled.records with
    | same workers => exact .same workers
    | forked worker workers runs => exact .forked worker workers runs
    | changed id worker now found workers exited => exact .changed id worker now found workers exited
  · exact handled

end

theorem Steady.handled (steady : Steady supervisor) (event : Event) : Handled supervisor (Handoff.step supervisor event) := by
  have idle : Handled supervisor supervisor := .silent (.same rfl) (fun stops => stops) rfl
  unfold Handoff.step
  split
  · exact idle
  · cases event with
    | hangup =>
      simp only [Handoff.hangup]
      split
      · exact idle
      · next may =>
        simp only [not_or, Bool.not_eq_true] at may
        split
        · exact .silent (.forked _ rfl may.1) (fun stops => stops) rfl
        · exact .silent (.forked _ rfl may.1) (fun stops => stops) rfl
    | listening id reached =>
      simp only [Handoff.listening]
      split
      · next worker found =>
        split
        · split
          · next held =>
            cases before : supervisor.current with
            | none => exact .silent (.changed id worker _ found rfl fun exited => exited) (fun stops => stops) rfl
            | some previous =>
              refine ⟨.changed id worker _ found rfl fun exited => exited, fun stops => stops, [⟨previous, .reload, reached⟩],
                rfl, fun told inside _ => ?_⟩
              obtain rfl : told = ⟨previous, .reload, reached⟩ := by simpa using inside
              obtain ⟨same, there, lives, -⟩ := steady.pending id held
              obtain rfl : worker = same := Option.some.inj (found.symm.trans there)
              refine ⟨id, _, rfl, ?_, getElem?_set_iff found, rfl, lives⟩
              rintro rfl
              exact steady.apart id held before
          · exact .silent (.changed id worker _ found rfl fun exited => exited) (fun stops => stops) rfl
        · exact idle
      · exact idle
    | startTimeout id =>
      simp only [Handoff.startTimeout]
      split
      · next worker found =>
        split
        · split
          · exact .silent (.changed id worker _ found rfl fun exited => exited) (fun stops => stops) rfl
          · exact .silent (.changed id worker _ found rfl fun exited => exited) (fun stops => stops) rfl
        · exact idle
      · exact idle
    | exit id =>
      simp only [Handoff.exit]
      split
      · next worker found =>
        split
        · exact idle
        · apply Handled.quit
          split
          · exact .silent (.changed id worker _ found rfl fun _ => rfl) (fun stops => stops) rfl
          · split
            · exact .silent (.changed id worker _ found rfl fun _ => rfl) (fun stops => stops) rfl
            · exact .silent (.changed id worker _ found rfl fun _ => rfl) (fun stops => stops) rfl
      · exact idle
    | restart =>
      simp only [Handoff.restart]
      split
      · exact idle
      · split
        · next may =>
          simp only [Bool.not_eq_true] at may
          exact .silent (.forked _ rfl may.1) (fun stops => stops) rfl
        · exact .silent (.same rfl) (fun stops => stops) rfl
    | stop reaches =>
      simp only [Handoff.stop]
      split
      · exact idle
      · obtain ⟨draining, new, -, stops, same⟩ := @drains_frame supervisor reaches
          (supervisor.current.toList ++ supervisor.pending.toList ++ supervisor.draining)
        rw [same true]
        refine Handled.quit ⟨.same rfl, fun _ => rfl, new, rfl, fun told inside reload => ?_⟩
        rw [stops told inside] at reload
        cases reload

theorem Handled.gone {after : Supervisor} (handled : Handled supervisor after) {id : Nat} (gone : supervisor.gone id) :
    after.gone id := by
  unfold Supervisor.gone
  cases handled.records with
  | same workers => rwa [workers]
  | forked worker workers _ =>
    obtain ⟨there, before, exited⟩ := gone
    exact ⟨there, workers ▸ fork_getElem? _ before, exited⟩
  | changed other worker now found workers exited =>
    rw [workers]
    exact gone_set found exited gone

theorem Handled.length {after : Supervisor} (handled : Handled supervisor after) (stops : supervisor.stopping = true) :
    after.workers.length = supervisor.workers.length := by
  cases handled.records with
  | same workers => rw [workers]
  | forked _ _ runs => simp [stops] at runs
  | changed _ _ _ _ workers _ => simp [workers]

theorem exit_gone (going : supervisor.ended = false) {id : Nat} (forked : id < supervisor.workers.length) :
    (step supervisor (.exit id)).gone id := by
  obtain ⟨worker, found⟩ : ∃ worker, supervisor.workers[id]? = some worker :=
    ⟨_, List.getElem?_eq_getElem forked⟩
  simp only [step, going, Bool.false_eq_true, if_false, exit, found]
  by_cases exited : worker.exited = true
  · rw [if_pos exited]
    exact ⟨worker, found, exited⟩
  · rw [if_neg exited]
    refine ⟨{ worker with exited := true }, ?_, rfl⟩
    rw [(quit_workers _).1]
    have changed : (supervisor.workers.set id { worker with exited := true })[id]? = some { worker with exited := true } :=
      getElem?_set_iff found
    split
    · exact changed
    · split <;> exact changed

theorem ended_run (passed : supervisor.ended = true) (events : List Event) : run supervisor events = supervisor := by
  induction events with
  | nil => rfl
  | cons event rest ih =>
    have idle : step supervisor event = supervisor := by simp [step, passed]
    rwa [run, List.foldl_cons, idle]

theorem Steady.ends (steady : Steady supervisor) (stops : supervisor.stopping = true)
    (all : ∀ id < supervisor.workers.length, supervisor.gone id) : supervisor.ended = true := by
  have nobody : ∀ id, ¬supervisor.alive id := by
    rintro id ⟨worker, found, lives⟩
    obtain ⟨same, there, exited⟩ := all id (id_lt found)
    obtain rfl : worker = same := Option.some.inj (found.symm.trans there)
    simp [lives] at exited
  refine steady.quit stops ?_ ?_ ?_
  · cases held : supervisor.current with
    | none => rfl
    | some id => exact absurd (steady.current id held) (nobody id)
  · cases held : supervisor.pending with
    | none => rfl
    | some id =>
      obtain ⟨worker, found, lives, -⟩ := steady.pending id held
      exact absurd ⟨worker, found, lives⟩ (nobody id)
  · cases held : supervisor.draining with
    | nil => rfl
    | cons id rest => exact absurd (steady.draining id (by simp [held])) (nobody id)

/-- A stopping supervisor ends once the exits of the workers that are left have come, whatever else comes with them. -/
theorem Steady.stops (steady : Steady supervisor) (stopping : supervisor.stopping = true) (events : List Event)
    (exits : ∀ id < supervisor.workers.length, supervisor.gone id ∨ .exit id ∈ events) :
    (Handoff.run supervisor events).ended = true := by
  induction events generalizing supervisor with
  | nil => exact steady.ends stopping fun id forked => (exits id forked).elim (fun gone => gone) (by simp)
  | cons event rest ih =>
    cases going : supervisor.ended with
    | true => rw [ended_run going]; exact going
    | false =>
      have handled := steady.handled event
      refine ih (steady.step event) (handled.stops stopping) fun id forked => ?_
      rw [handled.length stopping] at forked
      rcases exits id forked with gone | listed
      · exact .inl (handled.gone gone)
      · rcases List.mem_cons.mp listed with rfl | later
        · exact .inl (exit_gone going forked)
        · exact .inr later

/-- The new worker takes over, the old one drains; after the stop both exits end the supervisor. -/
example : (run start [.hangup, .listening 1 true, .stop fun _ => true, .exit 0, .exit 1]).ended = true := by decide

end

end SpaceApp.Gateway.Handoff
