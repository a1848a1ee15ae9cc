import SpaceApp.Plans.Events

/-! A thread runs to its next await, and a START may go out there. -/

set_option autoImplicit false

namespace SpaceApp.Plans

open SpaceApp.Foundation Dialogue

section

variable {options : ControllerOptions} {stored : Nat → ManagedPlanExecution} {alive : Prop} {world next : World}
  {advance after other : Advance} {known told issued : Known} {record : ManagedPlanExecution} {key otherKey : Nat}
  {op : Op} {waits : Op.Answer op → Program Unit} {since rest : Local} {thread : Thread} {program : Program Unit}
  {post : Except Failure Unit → Known → Local → Local → Prop}

variable (options alive known issued op since rest) in
/-- What a question leaves of what the thread knows. -/
structure Asking : Prop where
  knows : issued.expiry = known.expiry ∧ issued.count = known.count ∧ issued.core = known.core
  mode : (isInterrupt op = false ∧ issued.mode = known.mode) ∨
    (isInterrupt op = true ∧ known.mode = .free ∧ known.core.isSome ∧
      ∃ id, issued.mode = .held id ∧ (alive → startId rest.execution = some id))
  unsent : ∀ id, issued.unsent = some id → startOf op = none ∧
    (known.unsent = some id ∨ ∃ index, since.nextId ≤ index ∧ options.ids.uuid index = id)

section
variable (owes : issues options stored alive known since rest op issued)

include owes

theorem issues_asking : Asking options alive known issued op since rest := by
  obtain ⟨-, owes⟩ := owes
  cases op with
  | update view patch =>
    obtain ⟨-, -, -, -, rfl | ⟨index, late, -, rfl⟩⟩ := owes
    · exact ⟨⟨rfl, rfl, rfl⟩, .inl ⟨rfl, rfl⟩, fun _ same => ⟨rfl, .inl same⟩⟩
    · exact ⟨⟨rfl, rfl, rfl⟩, .inl ⟨rfl, rfl⟩, fun _ same => ⟨rfl, .inr ⟨index, late, Option.some.inj same⟩⟩⟩
  | startManagedTurn threadId selection prompt start command =>
    obtain ⟨-, -, -, -, rfl⟩ := owes
    exact ⟨⟨rfl, rfl, rfl⟩, .inl ⟨rfl, rfl⟩, fun _ same => by cases same⟩
  | interruptTurn threadId turnId intent =>
    obtain ⟨id, free, rfl, ⟨before, knows, -⟩, started⟩ := owes
    exact ⟨⟨rfl, rfl, rfl⟩, .inr ⟨rfl, free, Option.isSome_of_eq_some knows, id, rfl, started⟩, fun _ same => ⟨rfl, .inl same⟩⟩
  | get =>
    obtain ⟨-, rfl⟩ := owes
    exact ⟨⟨rfl, rfl, rfl⟩, .inl ⟨rfl, rfl⟩, fun _ same => ⟨rfl, .inl same⟩⟩
  | release =>
    obtain ⟨-, rfl⟩ := owes
    exact ⟨⟨rfl, rfl, rfl⟩, .inl ⟨rfl, rfl⟩, fun _ same => ⟨rfl, .inl same⟩⟩
  | _ =>
    obtain rfl := owes
    exact ⟨⟨rfl, rfl, rfl⟩, .inl ⟨rfl, rfl⟩, fun _ same => ⟨rfl, .inl same⟩⟩

theorem issues_start {id : String} (starts : startOf op = some id) : known.unsent = some id ∧
      (∃ told, known.core = some told ∧ (alive → told.start = some id)) ∧
      ∃ expiry, known.expiry = some expiry ∧ since.now < expiry := by
  obtain ⟨-, owes⟩ := owes
  cases op with
  | startManagedTurn threadId selection prompt start command =>
    obtain ⟨unsent, -, recorded, leased, -⟩ := owes
    cases starts
    exact ⟨unsent, recorded, leased⟩
  | _ => cases starts

theorem issues_owed (drawn : next.nextId = rest.nextId) :
    Owed options stored alive next issued (.waiting op waits) := by
  obtain ⟨-, owes⟩ := owes
  cases op with
  | update view patch =>
    obtain ⟨genuine, fresh, lawful, mode, same⟩ := owes
    rw [← drawn] at fresh
    rcases same with rfl | ⟨index, -, -, rfl⟩
    · exact ⟨genuine, fresh, lawful, mode⟩
    · exact ⟨genuine, fresh, lawful, mode⟩
  | get =>
    obtain ⟨knows, rfl⟩ := owes
    exact knows
  | release =>
    obtain ⟨knows, rfl⟩ := owes
    exact knows
  | _ => trivial

end

variable (options stored alive since known post rest) in
/-- The thread ran from `since` to its next await, or to its end. -/
inductive Settled (lease : PlanExecutionLease) : Thread → Known → Prop where
  | asks {op : Op} {waits : Op.Answer op → Program Unit} {issued : Known}
      (owes : issues options stored alive known since rest op issued)
      (keeps : (Thread.waiting op waits : Thread).Keeps (rules options lease stored alive) issued rest post) :
      Settled lease (.waiting op waits) issued
  | ends {result : Except Failure Unit} (holds : post result known since rest) : Settled lease (.ended result) known

theorem ThreadKept.settles (kept : ThreadKept options stored alive world advance known post (.ready program))
    (genuine : Genuine options stored advance.execution) (issued : Issued options.ids world.nextId advance.execution)
    (execution : since.execution = advance.execution) (drawn : since.nextId = world.nextId)
    (ran : program.settle since = (thread, rest)) :
    ∃ told, Settled options stored alive known since rest post advance.lease thread told := by
  have holds : program.Holds (rules options advance.lease stored alive) known since since post := by
    apply kept.keeps
    apply relies_seen
    · rw [drawn]
      exact kept.counted
    · rw [execution]
      exact genuine
    · rw [execution, drawn]
      exact issued
    · intro id held living
      rw [execution]
      exact kept.guarded id held living
    · intro _
      rw [execution]
  have settled := holds.settled
  rw [ran] at settled
  cases thread with
  | ready program => exact settled.elim
  | waiting op waits =>
    obtain ⟨told, owes, keeps⟩ := settled
    exact ⟨told, .asks owes keeps⟩
  | ended result => exact ⟨known, .ends settled⟩

section

variable {lease : PlanExecutionLease} (settled : Settled options stored alive known since rest post lease thread told)

include settled

theorem Settled.clear
    (clears : ∀ result known since later, post result known since later → Clear options stored alive known since later) :
    Clear options stored alive known since rest := by
  cases settled with
  | asks owes keeps => exact owes.1
  | ends holds => exact clears _ _ _ _ holds

theorem Settled.knows : told.expiry = known.expiry ∧ told.count = known.count ∧ told.core = known.core := by
  cases settled with
  | asks owes keeps => exact (issues_asking owes).knows
  | ends holds => exact ⟨rfl, rfl, rfl⟩

/-- The only thing that holds a START is to interrupt its turn. -/
theorem Settled.mode : told.mode = known.mode ∨
    (known.mode = .free ∧ known.core.isSome ∧ ∃ id, told.mode = .held id ∧ (alive → startId rest.execution = some id)) := by
  cases settled with
  | asks owes keeps =>
    rcases (issues_asking owes).mode with ⟨-, same⟩ | ⟨-, held⟩
    · exact .inl same
    · exact .inr held
  | ends holds => exact .inl rfl

section
variable
  (clears : ∀ result known since later, post result known since later → Clear options stored alive known since later)

include clears

theorem Settled.guarded
    (id : String) (held : told.mode = .held id) (living : alive) : startId rest.execution = some id := by
  rcases settled.mode with same | ⟨-, -, other, started, guards⟩
  · have guarded := (settled.clear clears).guarded
    rw [← same, held] at guarded
    exact guarded living
  · rw [held] at started
    cases started
    exact guards living

theorem Settled.threadKept (kept : ThreadKept options stored alive world advance known post (.ready program))
    (beside : Beside options world next advance after) (same : lease = advance.lease)
    (execution : after.execution = rest.execution) (drawn : next.nextId = rest.nextId) :
    ThreadKept options stored alive next after told post thread := by
  have clear := settled.clear clears
  obtain ⟨expiry, count, -⟩ := settled.knows
  have counted : told.count ≤ next.nextId := by
    rw [count, drawn]
    exact clear.counted.trans clear.drawn
  have guarded (id : String) (held : told.mode = .held id) (living : alive) : startId after.execution = some id := by
    rw [execution]
    exact settled.guarded clears id held living
  refine ⟨counted, guarded, ?_, ?_, ?_⟩
  · intro until_ knows unreleased
    rw [expiry] at knows
    exact kept.leased.beside beside until_ knows unreleased
  · cases settled with
    | asks owes keeps => exact issues_owed owes drawn
    | ends holds => trivial
  · cases settled with
    | ends holds => trivial
    | asks owes keeps =>
      rw [beside.lease, ← same]
      apply Thread.Keeps.stable keeps
      have seen : (next.seen after).execution = rest.execution := execution
      refine ⟨counted, ?_, ?_, ?_⟩
      · rw [seen]
        exact clear.genuine
      · rw [seen]
        apply clear.issued.mono
        show since.nextId ≤ next.nextId
        rw [drawn]
        exact clear.drawn
      · cases mode : told.mode with
        | free => rw [seen]
        | held id => exact guarded id mode
        | passing => trivial

end

end

theorem mainPost_clear (result : Except Failure Unit) (known : Known) (since later : Local)
    (post : mainPost options stored alive result known since later) : Clear options stored alive known since later := post

theorem callbackPost_clear {call : Op} (result : Except Failure Unit) (known : Known) (since later : Local)
    (post : callbackPost options stored alive call result known since later) :
    Clear options stored alive known since later := post.1

theorem callOf_waiting {lease : PlanExecutionLease} (member : op ∈ callOf lease thread) :
    ∃ waits, thread = .waiting op waits := by
  cases thread with
  | waiting asked waits =>
    simp only [callOf] at member
    split at member
    · obtain rfl := List.mem_singleton.mp member
      exact ⟨waits, rfl⟩
    · cases member
  | ready program => cases member
  | ended result => cases member

theorem StepKept.resumed (kept : StepKept options stored alive world advance known)
    (ready : advance.main = .ready program)
    (settled : Settled options stored alive known since rest (mainPost options stored alive) advance.lease thread told)
    (moved : after = advance.rests none thread rest (advance.released || World.isOver thread))
    (beside : Beside options world next advance after) (recorded : next.record = world.record)
    (began : since.nextId = world.nextId) (drawn : next.nextId = rest.nextId)
    (sendings : next.sendings = world.sent advance none thread ++ world.sendings)
    (drawnIds : ∀ sending ∈ world.sendings, sending.handed = true →
      ∃ index < world.nextId, options.ids.uuid index = sending.commandId) :
    StepKept options stored alive next after told := by
  subst moved
  have clear := settled.clear mainPost_clear
  obtain ⟨-, -, sameCore⟩ := settled.knows
  have thread_ : ThreadKept options stored alive world advance known (mainPost options stored alive) (.ready program) :=
    ready ▸ kept.thread
  have issued : Issued options.ids next.nextId rest.execution := by
    apply clear.issued.mono
    rw [drawn]
    exact clear.drawn
  constructor
  · exact settled.threadKept mainPost_clear thread_ beside rfl rfl drawn
  · rcases settled.mode with same | ⟨-, -, id, held, -⟩
    · rw [same]
      exact kept.stepping
    · rw [held]
      intro passing
      cases passing
  · intro unreleased
    rw [sameCore, recorded]
    exact kept.recorded (Bool.or_eq_false_iff.mp unreleased).1
  · intro released
    rcases Bool.or_eq_true_iff.mp released with before | ended
    · right
      rw [sameCore]
      rcases kept.finished before with ended | silent
      · rw [ready] at ended
        cases ended
      · exact silent
    · exact .inl ended
  · intro id unsent unreleased living sending member handed same
    have unreleased := Bool.or_eq_false_iff.mp unreleased
    cases settled with
    | ends holds => cases unreleased.2
    | asks owes keeps =>
      obtain ⟨quiet, source⟩ := (issues_asking owes).unsent id unsent
      have old : sending ∈ world.sendings := by
        rw [sendings] at member
        simpa [World.sent, quiet] using member
      rcases source with before | ⟨index, late, fresh⟩
      · exact kept.unsent id before unreleased.1 living sending old handed same
      · -- an id drawn just now was never handed to anyone
        obtain ⟨earlier, below, own⟩ := drawnIds sending old handed
        have clash := options.ids.distinct (own.trans (same.trans fresh.symm))
        omega
  · intro id starts
    cases settled with
    | ends holds => cases starts
    | asks owes keeps =>
      rw [sameCore]
      exact (issues_start owes starts).2.1
  · intro call member interrupts
    rcases List.mem_append.mp member with new | old
    · obtain ⟨waits, rfl⟩ := callOf_waiting new
      cases settled with
      | asks owes keeps =>
        rcases (issues_asking owes).mode with ⟨other, -⟩ | ⟨-, -, -, id, held, -⟩
        · rw [interrupts] at other
          cases other
        · exact ⟨id, held⟩
    · obtain ⟨id, held⟩ := kept.calls call old interrupts
      rcases settled.mode with same | ⟨free, -⟩
      · exact ⟨id, same.trans held⟩
      · rw [held] at free
        cases free
  · intro callback member
    obtain ⟨own, calls⟩ := kept.callbacks callback member
    have shares : own.mode = .passing ∨ ∃ id, own.mode = .held id ∧ told.mode = .held id := by
      rcases calls.shares with passing | ⟨id, ownHeld, held⟩
      · exact .inl passing
      · rcases settled.mode with same | ⟨free, -⟩
        · exact .inr ⟨id, ownHeld, same.trans held⟩
        · rw [held] at free
          cases free
    refine ⟨own, calls.thread.beside beside clear.genuine issued ?_ ?_, calls.core, shares⟩
    · intro id ownHeld living
      rcases shares with passing | ⟨other, same, held⟩
      · rw [ownHeld] at passing
        cases passing
      · rw [ownHeld] at same
        cases same
        exact settled.guarded mainPost_clear id held living
    · intro free
      rcases shares with passing | ⟨other, same, -⟩
      · rw [free] at passing
        cases passing
      · rw [free] at same
        cases same

/-- What a call of `beforeSend` does to the variable it shares with its step. -/
theorem CallbackKept.shared {call : Op} {lease : PlanExecutionLease}
    (calls : CallbackKept options stored alive world advance known (call, .ready program) told)
    (kept : StepKept options stored alive world advance known)
    (settled : Settled options stored alive told since rest (callbackPost options stored alive call) lease thread issued)
    (execution : since.execution = advance.execution) :
    (∀ id, known.mode = .held id → alive → startId rest.execution = some id) ∧
      (known.mode = .free → Plans.core rest.execution = Plans.core advance.execution) ∧ issued.mode = told.mode := by
  have clear := settled.clear callbackPost_clear
  have stays : issued.mode = told.mode := by
    rcases settled.mode with same | ⟨-, knows, -⟩
    · exact same
    · rw [calls.core] at knows
      cases knows
  have owed := clear.guarded
  rcases calls.shares with passing | ⟨id, held, shared⟩
  · rw [passing, execution] at owed
    refine ⟨?_, fun _ => owed, stays⟩
    intro id held living
    exact (congrArg Core.start owed).trans (kept.thread.guarded id held living)
  · rw [held] at owed
    refine ⟨?_, ?_, stays⟩
    · intro other mode living
      rw [shared] at mode
      cases mode
      exact owed living
    · intro free
      rw [shared] at free
      cases free

theorem StepKept.callResumed (kept : StepKept options stored alive world advance known) {index : Nat} {call : Op}
    (ready : advance.callbacks[index]? = some (call, .ready program)) (ran : program.settle since = (thread, rest))
    (moved : after = advance.rests (some index) thread rest advance.released)
    (beside : Beside options world next advance after) (recorded : next.record = world.record)
    (execution : since.execution = advance.execution) (began : since.nextId = world.nextId)
    (drawn : next.nextId = rest.nextId)
    (sendings : ∃ sent, next.sendings = sent ++ world.sendings ∧ ∀ sending ∈ sent, sending.handed = false)
    (genuine : Genuine options stored advance.execution) (issued : Issued options.ids world.nextId advance.execution) :
    StepKept options stored alive next after known := by
  subst moved
  obtain ⟨own, calls⟩ := kept.callbacks _ (List.mem_of_getElem? ready)
  obtain ⟨told, settled⟩ := calls.thread.settles genuine issued execution began ran
  have clear := settled.clear callbackPost_clear
  obtain ⟨held, free, sameMode⟩ := calls.shared kept settled execution
  obtain ⟨-, -, sameCore⟩ := settled.knows
  have issuedNow : Issued options.ids next.nextId rest.execution := by
    apply clear.issued.mono
    rw [drawn]
    exact clear.drawn
  constructor
  · exact kept.thread.beside beside clear.genuine issuedNow held free
  · exact kept.stepping
  · rw [recorded]
    exact kept.recorded
  · exact kept.finished
  · intro id knows unreleased living sending member handed
    obtain ⟨sent, grown, none⟩ := sendings
    rw [grown] at member
    rcases List.mem_append.mp member with new | old
    · rw [none sending new] at handed
      cases handed
    · exact kept.unsent id knows unreleased living sending old handed
  · exact kept.starting
  · intro op member interrupts
    rcases List.mem_append.mp member with new | old
    · obtain ⟨waits, rfl⟩ := callOf_waiting new
      cases settled with
      | asks owes keeps =>
        rcases (issues_asking owes).mode with ⟨other, -⟩ | ⟨-, -, knows, -⟩
        · rw [interrupts] at other
          cases other
        · rw [calls.core] at knows
          cases knows
    · exact kept.calls op old interrupts
  · intro callback member
    obtain ⟨position, found⟩ := List.mem_iff_getElem?.mp member
    rcases modify_cases found with ⟨rfl, _, here, rfl⟩ | ⟨-, found⟩
    · cases ready.symm.trans here
      refine ⟨told, settled.threadKept callbackPost_clear calls.thread beside rfl rfl drawn, sameCore.trans calls.core, ?_⟩
      rw [sameMode]
      exact calls.shares
    · obtain ⟨other, others⟩ := kept.callbacks callback (List.mem_of_getElem? found)
      refine ⟨other, others.thread.beside beside clear.genuine issuedNow ?_ ?_, others.core, others.shares⟩
      · intro id otherHeld living
        rcases others.shares with passing | ⟨shared, mine, mode⟩
        · rw [otherHeld] at passing
          cases passing
        · rw [otherHeld] at mine
          cases mine
          exact held id mode living
      · intro otherFree
        rcases others.shares with passing | ⟨shared, mine, -⟩
        · rw [otherFree] at passing
          cases passing
        · rw [otherFree] at mine
          cases mine

end

end SpaceApp.Plans
