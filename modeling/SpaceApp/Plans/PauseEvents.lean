import SpaceApp.Plans.PauseRuns

/-! One event after the other keeps what the fleet's threads know of its pauses. -/

set_option autoImplicit false

namespace SpaceApp.Plans.Pausing

open SpaceApp.Foundation Dialogue

section

variable {options : ControllerOptions} {stored : Nat → Gist} {watched next : Watched} {world : World} {key index : Nat}
  {advance after : Advance} {known told : Sight} {reply : Reply} {driver : (op : Op) → Op.Answer op}
  {record : ManagedPlanExecution} {event : Event} {thread : Thread} {op : Op} {answer : Op.Answer op}
  {waits : Op.Answer op → Program Unit} {post : Except Failure Unit → Sight → Local → Local → Prop}

theorem AdvanceHeld.kept (held : AdvanceHeld stored watched key advance)
    (other : ∀ index, Watched.fences watched.world event ≠ some (key, index)) :
    AdvanceHeld stored (watched.step options event) key advance where
  __ := held
  callbacks := by
    intro index callback found
    obtain ⟨known, call, fenced⟩ := held.callbacks index callback found
    exact ⟨known, call, fenced.kept (other index)⟩

theorem ThreadHeld.answered (held : ThreadHeld stored advance post (.waiting op waits) known)
    (tells : answers stored known op answer told) (execution : after.execution = advance.execution)
    (filed : Filed stored advance.execution) : ThreadHeld stored after post (.ready (waits answer)) told where
  owed := trivial
  keeps := by
    apply Thread.Keeps.stable (Thread.Keeps.answered held.keeps tells)
    have same : (Advance.here after).execution = advance.execution := execution
    refine ⟨?_, fun _ => ?_⟩
    · rw [same]
      exact filed
    · rw [same]
      rfl

section

variable (held : AdvanceHeld stored watched key advance)

include held

theorem AdvanceHeld.answered (filed : Filed stored watched.world.record) (waiting : advance.main = .waiting op waits)
    (lands : Filed stored record) (replied : watched.world.reply options advance reply driver op = (answer, record))
    (released : Bool) (other : ∀ index, Watched.fences watched.world event ≠ some (key, index)) :
    AdvanceHeld stored (watched.step options event) key { advance with released, main := .ready (waits answer) } where
  filed := held.filed
  main := by
    obtain ⟨known, main⟩ := held.main
    have thread : ThreadHeld stored advance (mainPost stored) (.waiting op waits) known := waiting ▸ main.thread
    obtain ⟨told, tells, -⟩ := reply_told known filed thread.owed lands replied
    refine ⟨told, thread.answered tells rfl held.filed, ?_, ?_, ?_⟩
    · rw [tells.1]
      exact main.stepping
    · rw [tells.1]
      exact main.strict
    · intro op next asks
      cases asks
  callbacks := by
    intro index callback found
    obtain ⟨known, call, fenced⟩ := held.callbacks index callback found
    exact ⟨known, call.moved held.filed fun _ => id, fenced.kept (other index)⟩

theorem AdvanceHeld.callAnswered (filed : Filed stored watched.world.record)
    (paused : watched.pausedAt.isSome = true → (gist watched.world.record).Held) {call : Op}
    (waiting : advance.callbacks[index]? = some (call, .waiting op waits)) (lands : Filed stored record)
    (replied : watched.world.reply options advance reply driver op = (answer, record)) (released : Bool)
    (stands : watched.pausedAfter options event = watched.pausedAt)
    (fences : Watched.fences watched.world event = if isClaim op then some (key, index) else none) :
    AdvanceHeld stored (watched.step options event) key { advance with
      released
      callbacks := advance.callbacks.modify index fun callback => (callback.1, .ready (waits answer)) } where
  filed := held.filed
  main := by
    obtain ⟨known, main⟩ := held.main
    exact ⟨known, main.thread.moved held.filed fun _ => rfl, main.stepping, main.strict, main.asked⟩
  callbacks := by
    intro position callback found
    rcases modify_cases found with ⟨rfl, _, here, rfl⟩ | ⟨same, found⟩
    · cases waiting.symm.trans here
      obtain ⟨known, calls, fenced⟩ := held.callbacks index _ waiting
      obtain ⟨told, tells, claimed⟩ := reply_told known filed calls.thread.owed lands replied
      refine ⟨told, ⟨calls.thread.answered tells rfl held.filed, ?_, ?_⟩, ?_⟩
      · rw [tells.1]
        exact calls.shares
      · rw [tells.1]
        exact calls.command
      · intro seen shows
        show watched.fencedAfter event key index < watched.count + 1 ∧ ∀ paused,
          watched.pausedAfter options event = some paused → paused ≤ watched.fencedAfter event key index → seen.Held
        rw [stands]
        rcases claimed with ⟨quiet, same⟩ | ⟨claims, own⟩
        · rw [same] at shows
          rw [quiet] at fences
          obtain ⟨before, held⟩ := fenced seen shows
          simp only [Watched.fencedAfter, fences]
          exact ⟨Nat.lt_succ_of_lt before, held⟩
        · rw [claims] at fences
          simp only [Watched.fencedAfter, fences, if_true, Function.update_self]
          refine ⟨Nat.lt_succ_self _, ?_⟩
          intro standing stood _
          rw [own seen shows]
          apply paused
          rw [stood]
          rfl
    · obtain ⟨known, calls, fenced⟩ := held.callbacks position callback found
      refine ⟨known, calls.moved held.filed fun _ => id, fenced.kept ?_⟩
      rw [fences]
      cases isClaim op with
      | false => simp
      | true => simpa using fun equal => absurd equal same

theorem AdvanceHeld.owed {slot : Option Nat} (waiting : advance.thread slot = some (.waiting op waits)) :
    Owed stored (.waiting op waits) := by
  cases slot with
  | none =>
    obtain ⟨known, main⟩ := held.main
    have same : advance.main = .waiting op waits := Option.some.inj waiting
    rw [← same]
    exact main.thread.owed
  | some index =>
    simp only [Advance.thread, Option.map_eq_some_iff] at waiting
    obtain ⟨callback, found, same⟩ := waiting
    obtain ⟨known, calls, -⟩ := held.callbacks index callback found
    rw [← same]
    exact calls.thread.owed

end

/-- The gist of the record after an event, which keeps what a standing pause holds. -/
theorem steady_after {record : ManagedPlanExecution} (held : (gist world.record).Held)
    (steps : gist record = gist world.record ∨ ∃ patch, gist record = (gist world.record).after patch ∧
      (gist world.record).Steady patch) :
    (gist record).Held := by
  rcases steps with same | ⟨patch, same, steady⟩
  · rw [same]
    exact held
  · rw [same]
    exact steady.held held

theorem put_advances {other : Nat} {its : Advance} (present : (world.put key advance).advances other = some its) :
    (other = key ∧ its = advance) ∨ (other ≠ key ∧ world.advances other = some its) := by
  have present : Function.update world.advances key (some advance) other = some its := present
  by_cases same : other = key
  · subst same
    rw [Function.update_self] at present
    exact .inl ⟨rfl, (Option.some.inj present).symm⟩
  · rw [Function.update_of_ne same] at present
    exact .inr ⟨same, present⟩

section

variable (held : WatchHeld stored watched)

include held

/-- What an event has to leave of the fleet. -/
theorem WatchHeld.moves {event : Event} (filed : Filed stored (watched.world.step options event).record)
    (holds : (watched.pausedAfter options event).isSome = true → (gist (watched.world.step options event).record).Held)
    (views : ∀ view ∈ (watched.world.step options event).views, Filed stored view)
    (advances : ∀ key its, (watched.world.step options event).advances key = some its →
      AdvanceHeld stored (watched.step options event) key its)
    (passes : ∀ pass ∈ watched.lets event, ∀ paused, pass.pausedAt = some paused → pass.fencedAt < paused) :
    WatchHeld stored (watched.step options event) where
  record := filed
  held := holds
  views := views
  advances := advances
  passes := by
    intro pass member
    rcases List.mem_append.mp member with new | old
    · exact passes pass new
    · exact held.passes pass old

theorem WatchHeld.unchanged {event : Event} (record : (watched.world.step options event).record = watched.world.record)
    (views : (watched.world.step options event).views = watched.world.views)
    (advances : ∀ key its, (watched.world.step options event).advances key = some its →
      watched.world.advances key = some its)
    (stands : watched.pausedAfter options event = watched.pausedAt) (silent : Watched.fences watched.world event = none)
    (passes : watched.lets event = []) : WatchHeld stored (watched.step options event) := by
  apply held.moves
  · rw [record]
    exact held.record
  · rw [stands, record]
    exact held.held
  · rw [views]
    exact held.views
  · intro key its present
    apply (held.advances key its (advances key its present)).kept
    rw [silent]
    simp
  · rw [passes]
    intro pass member
    cases member

theorem WatchHeld.idle {event : Event} (same : watched.world.step options event = watched.world)
    (stands : watched.pausedAfter options event = watched.pausedAt) (silent : Watched.fences watched.world event = none)
    (passes : watched.lets event = []) : WatchHeld stored (watched.step options event) := by
  apply held.unchanged _ _ _ stands silent passes
  · rw [same]
  · rw [same]
  · rw [same]
    exact fun _ _ => id

theorem WatchHeld.performs {slot : Option Nat}
    (agrees : ∀ record ∈ (watched.world.performs options key slot reply driver).past, Filed stored record) :
    WatchHeld stored (watched.step options (.performs key slot reply driver)) := by
  cases present : watched.world.advances key with
  | none =>
    refine held.idle ?_ rfl ?_ rfl
    · simp only [World.step, World.performs, present]
    · cases slot <;> simp [Watched.fences, present]
  | some advance =>
    have quiet : (∀ op waits, advance.thread slot ≠ some (.waiting op waits)) →
        WatchHeld stored (watched.step options (.performs key slot reply driver)) := by
      intro resting
      refine held.idle ?_ rfl ?_ rfl
      · simp only [World.step, World.performs, present]
      · cases slot with
        | none => rfl
        | some index => simp only [Watched.fences, present, Option.bind_some]
    cases thread : advance.thread slot with
    | none => exact quiet fun _ _ same => by rw [thread] at same; cases same
    | some resting =>
      cases resting with
      | ready program => exact quiet fun _ _ same => by rw [thread] at same; cases same
      | ended result => exact quiet fun _ _ same => by rw [thread] at same; cases same
      | waiting op waits =>
        rcases replied : watched.world.reply options advance reply driver op with ⟨answer, record⟩
        have mine := held.advances key advance present
        have owed := mine.owed thread
        have same : watched.world.performs options key slot reply driver =
            (watched.world.store record).put key (({ advance with
              released := advance.released || World.isRelease op } : Advance).setThread slot (.ready (waits answer))) := by
          simp only [World.performs, present, thread, replied]
        rw [same] at agrees
        have lands : Filed stored record := agrees record (List.mem_cons_self ..)
        have world : (watched.step options (.performs key slot reply driver)).world = _ := same
        constructor
        · rw [world]
          exact lands
        · rw [world]
          intro standing
          exact steady_after (held.held standing) (reply_gist held.record owed replied)
        · rw [world]
          exact held.views
        · rw [world]
          intro other its now
          rcases put_advances now with ⟨rfl, rfl⟩ | ⟨apart, before⟩
          · cases slot with
            | none =>
              have waiting : advance.main = .waiting op waits := Option.some.inj thread
              apply mine.answered held.record waiting lands replied
              simp [Watched.fences]
            | some index =>
              have fences : Watched.fences watched.world (.performs other (some index) reply driver) =
                  if isClaim op then some (other, index) else none := by
                simp only [Watched.fences, present, Option.bind_some, thread]
              simp only [Advance.thread, Option.map_eq_some_iff] at thread
              obtain ⟨callback, found, waiting⟩ := thread
              have call : advance.callbacks[index]? = some (callback.1, .waiting op waits) := by
                rw [found, ← waiting]
              exact mine.callAnswered held.record held.held call lands replied _ rfl fences
          · apply (held.advances other its before).kept
            intro index fences
            cases slot with
            | none => cases fences
            | some position =>
              simp only [Watched.fences, present, Option.bind_some, thread] at fences
              split at fences
              · cases fences
                exact apart rfl
              · cases fences
        · exact held.passes

end

structure Asked (stored : Nat → Gist) (known : Sight) (since state : Local) (op : Op) (issued : Sight) : Prop where
  filed : Filed stored state.execution
  claimed : issued.claimed = known.claimed
  passing : known.share = .passing → gist state.execution = gist since.execution ∧ isInterrupt op = false ∧
    issued.share = .passing
  stepping : known.share ≠ .passing → issued.share ≠ .passing
  loose : known.share = .loose → issued.share = .loose
  strict : issued.share = .strict → known.share = .strict ∧ isInterrupt op = false
  command : isCommand op = true → issued.share = .strict ∧ ¬ (gist state.execution).Held
  owed : ∀ waits, Owed stored (.waiting op waits)

theorem issues_asked {since state : Local} {issued : Sight} (asks : issues stored known since state op issued) :
    Asked stored known since state op issued := by
  obtain ⟨filed, claimed, passing, owes⟩ := asks
  have same (share : issued.share = known.share) (quiet : isInterrupt op = false)
      (command : isCommand op = true → known.share = .strict ∧ ¬ (gist state.execution).Held)
      (owed : ∀ waits, Owed stored (.waiting op waits)) : Asked stored known since state op issued := by
    refine ⟨filed, claimed, fun passes => ⟨passing passes, quiet, share.trans passes⟩, ?_, share.trans, ?_, ?_, owed⟩
    · rw [share]
      exact id
    · rw [share]
      exact fun strict => ⟨strict, quiet⟩
    · rw [share]
      exact command
  have loosens (share : known.share ≠ .passing ∧ issued.share = .loose) (silent : isCommand op = false)
      (owed : ∀ waits, Owed stored (.waiting op waits)) : Asked stored known since state op issued := by
    refine ⟨filed, claimed, fun passes => absurd passes share.1, ?_, fun _ => share.2, ?_, ?_, owed⟩
    · rw [share.2]
      exact fun _ => Share.noConfusion
    · rw [share.2]
      intro absurd_
      cases absurd_
    · rw [silent]
      intro absurd_
      cases absurd_
  cases op with
  | update view patch => exact same owes.2.2.2 rfl (fun command => by cases command) fun _ => ⟨owes.1, owes.2.1⟩
  | updateThreadSettings threadId selection command =>
    exact same owes.2.2 rfl (fun _ => ⟨owes.1, owes.2.1⟩) fun _ => trivial
  | startManagedTurn threadId selection prompt start command =>
    exact same owes.2.2 rfl (fun _ => ⟨owes.1, owes.2.1⟩) fun _ => trivial
  | interruptTurn threadId turnId intent => exact loosens owes rfl fun _ => trivial
  | get => exact loosens owes rfl fun _ => trivial
  | _ => exact same owes rfl (fun command => by cases command) fun _ => trivial

theorem callOf_interrupt {lease : PlanExecutionLease} (quiet : isInterrupt op = false) :
    ∀ call ∈ callOf lease (.waiting op waits), isInterrupt call = false := by
  intro call member
  simp only [callOf] at member
  split at member
  · rw [List.mem_singleton.mp member]
    exact quiet
  · cases member

theorem ThreadHeld.begins {program : Program Unit} (held : ThreadHeld stored advance post (.ready program) known)
    (filed : Filed stored advance.execution) {state : Local} (same : state.execution = advance.execution) :
    program.Holds (rules stored) known state state post := by
  apply held.keeps
  refine ⟨?_, fun _ => ?_⟩
  · rw [same]
    exact filed
  · rw [same]
    rfl

/-- A thread that waits goes on from the variable as it left it. -/
theorem waiting_held {issued : Sight} {rest : Local} (keeps : (Thread.waiting op waits).Keeps (rules stored) issued rest post)
    (owed : Owed stored (.waiting op waits)) (filed : Filed stored rest.execution)
    (same : after.execution = rest.execution) : ThreadHeld stored after post (.waiting op waits) issued where
  owed
  keeps := by
    apply Thread.Keeps.stable keeps
    have here : (Advance.here after).execution = rest.execution := same
    refine ⟨?_, fun _ => ?_⟩
    · rw [here]
      exact filed
    · rw [here]

theorem AdvanceHeld.resumed (held : AdvanceHeld stored watched key advance) {program : Program Unit}
    (ready : advance.main = .ready program) (state : Local) (same : state.execution = advance.execution) (released : Bool)
    (other : ∀ index, Watched.fences watched.world event ≠ some (key, index)) :
    AdvanceHeld stored (watched.step options event) key
      (advance.rests none (program.settle state).1 (program.settle state).2 released) := by
  obtain ⟨known, main⟩ := held.main
  have thread : ThreadHeld stored advance (mainPost stored) (.ready program) known := ready ▸ main.thread
  have settled := (thread.begins held.filed same).settled
  rcases settles : program.settle state with ⟨resting, rest⟩
  rw [settles] at settled
  have others (filed : Filed stored rest.execution) (position : Nat) (callback : Op × Thread)
      (found : advance.callbacks[position]? = some callback) :
      ∃ known, CallHeld stored (advance.rests none resting rest released) callback known ∧
        Fenced (watched.step options event) key position known := by
    obtain ⟨known, call, fenced⟩ := held.callbacks position callback found
    exact ⟨known, call.moved filed fun _ member => List.mem_append_right _ member, fenced.kept (other position)⟩
  cases resting with
  | ready program => exact settled.elim
  | ended result =>
    have filed : Filed stored rest.execution := settled
    refine ⟨filed, ⟨{ known with share := .loose }, ⟨trivial, trivial⟩, Share.noConfusion, ?_, ?_⟩, others filed⟩
    · intro strict
      cases strict
    · intro op next asks
      cases asks
  | waiting op waits =>
    obtain ⟨issued, asks, keeps⟩ := settled
    have asked := issues_asked asks
    refine ⟨asked.filed, ⟨issued, ?_, asked.stepping main.stepping, ?_, ?_⟩, others asked.filed⟩
    · exact waiting_held keeps (asked.owed waits) asked.filed rfl
    · intro strict call member
      obtain ⟨before, quiet⟩ := asked.strict strict
      rcases List.mem_append.mp member with new | old
      · exact callOf_interrupt quiet call new
      · exact main.strict before call old
    · intro asking next waiting command
      cases waiting
      exact asked.command command

theorem AdvanceHeld.callResumed (held : AdvanceHeld stored watched key advance) {call : Op} {program : Program Unit}
    (ready : advance.callbacks[index]? = some (call, .ready program)) (state : Local)
    (same : state.execution = advance.execution) (released : Bool)
    (other : ∀ index, Watched.fences watched.world event ≠ some (key, index)) :
    AdvanceHeld stored (watched.step options event) key
        (advance.rests (some index) (program.settle state).1 (program.settle state).2 released) ∧
      ((program.settle state).1 = .ended (.ok ()) → ∀ command, commandOf call = some command →
        advance.sends = some command → ∀ paused, watched.pausedAt = some paused →
          watched.fencedAt key index < paused) := by
  obtain ⟨known, calls, fenced⟩ := held.callbacks index _ ready
  obtain ⟨own, main⟩ := held.main
  have settled := (calls.thread.begins held.filed same).settled
  rcases settles : program.settle state with ⟨resting, rest⟩
  rw [settles] at settled
  -- a `beforeSend` moves the record only where the step has nothing left to send
  have shared (filed : Filed stored rest.execution)
      (passing : known.share = .passing → gist rest.execution = gist state.execution)
      (quiet : known.share = .passing → ∀ op ∈ callOf advance.lease resting, isInterrupt op = false) :
      MainHeld stored (advance.rests (some index) resting rest released) own := by
    have strictly (strict : own.share = .strict) : known.share = .passing := by
      rcases calls.shares with passes | ⟨-, op, member, interrupts⟩
      · exact passes
      · rw [main.strict strict op member] at interrupts
        cases interrupts
    have kept (strict : own.share = .strict) : gist rest.execution = gist advance.execution := by
      rw [passing (strictly strict), same]
    refine ⟨main.thread.moved filed kept, main.stepping, ?_, ?_⟩
    · intro strict op member
      rcases List.mem_append.mp member with new | old
      · exact quiet (strictly strict) op new
      · exact main.strict strict op old
    · intro op next asks command
      obtain ⟨strict, free⟩ := main.asked op next asks command
      exact ⟨strict, (kept strict).symm ▸ free⟩
  have others (filed : Filed stored rest.execution) (position : Nat) (callback : Op × Thread)
      (mine : index = position → callback = (call, resting) →
        ∃ known, CallHeld stored (advance.rests (some index) resting rest released) callback known ∧
          Fenced (watched.step options event) key position known)
      (found : (advance.rests (some index) resting rest released).callbacks[position]? = some callback) :
      ∃ known, CallHeld stored (advance.rests (some index) resting rest released) callback known ∧
        Fenced (watched.step options event) key position known := by
    rcases modify_cases found with ⟨here, _, there, rfl⟩ | ⟨-, found⟩
    · cases ready.symm.trans there
      exact mine here rfl
    · obtain ⟨known, its, fenced⟩ := held.callbacks position callback found
      exact ⟨known, its.moved filed fun _ member => List.mem_append_right _ member, fenced.kept (other position)⟩
  cases resting with
  | ready program => exact settled.elim
  | ended result =>
    obtain ⟨poised, passed⟩ := settled
    constructor
    · refine ⟨poised.filed, ⟨own, shared poised.filed poised.passing fun _ op member => by cases member⟩, ?_⟩
      intro position callback found
      refine others poised.filed position callback ?_ found
      rintro rfl rfl
      refine ⟨known, ⟨⟨trivial, trivial⟩, ?_, calls.command⟩, fenced.kept (other index)⟩
      exact calls.shares.imp_right fun ⟨loose, op, member, interrupts⟩ =>
        ⟨loose, op, List.mem_append_right _ member, interrupts⟩
    · intro ended command commands sends paused standing
      cases ended
      have isOne {op : Op} (some_ : commandOf op = some command) : isCommand op = true := by
        cases op <;> first | rfl | cases some_
      have shows := passed (isOne commands) rfl
      unfold Advance.sends at sends
      split at sends
      · next op next waiting =>
        obtain ⟨-, free⟩ := main.asked op next waiting (isOne sends)
        rw [same] at shows
        obtain ⟨-, held⟩ := fenced _ shows
        by_contra late
        exact free (held paused standing (not_lt.mp late))
      · cases sends
  | waiting op waits =>
    obtain ⟨issued, asks, keeps⟩ := settled
    have asked := issues_asked asks
    constructor
    · refine ⟨asked.filed, ⟨own, shared asked.filed (fun passing => (asked.passing passing).1) ?_⟩, ?_⟩
      · exact fun passing => callOf_interrupt (asked.passing passing).2.1
      · intro position callback found
        refine others asked.filed position callback ?_ found
        rintro rfl rfl
        refine ⟨issued, ⟨waiting_held keeps (asked.owed waits) asked.filed rfl, ?_, ?_⟩, ?_⟩
        · rcases calls.shares with passing | ⟨loose, op, member, interrupts⟩
          · exact .inl (asked.passing passing).2.2
          · exact .inr ⟨asked.loose loose, op, List.mem_append_right _ member, interrupts⟩
        · exact fun command => (asked.passing (calls.command command)).2.2
        · intro seen shows
          rw [asked.claimed] at shows
          exact fenced.kept (other index) seen shows
    · intro ended
      cases ended

end

end SpaceApp.Plans.Pausing
