import Mathlib.Data.List.Basic

/-! Programs that wait: between two awaits a program runs in one piece over its local state,
and at an await anything may answer.

The rules of reasoning are those of one thread among others: `Holds` follows a program, and at
every await the others may move the local state as far as `relies` lets them.
-/

set_option autoImplicit false

namespace SpaceApp.Foundation

inductive Dialogue (Op : Type) (Answer : Op → Type) (Local Error Result : Type) : Type where
  | done (result : Result)
  | fail (error : Error)
  | act (effect : Local → Local) (next : Local → Dialogue Op Answer Local Error Result)
  | ask (op : Op) (next : Answer op → Dialogue Op Answer Local Error Result)

namespace Dialogue

section

variable {Op : Type} {Answer : Op → Type} {Local Error Result Other : Type}

def andThen : Dialogue Op Answer Local Error Result → (Result → Dialogue Op Answer Local Error Other) →
    Dialogue Op Answer Local Error Other
  | .done result, next => next result
  | .fail error, _ => .fail error
  | .act effect step, next => .act effect fun before => (step before).andThen next
  | .ask op step, next => .ask op fun answer => (step answer).andThen next

instance : Monad (Dialogue Op Answer Local Error) where
  pure := .done
  bind := .andThen

def rescue : Dialogue Op Answer Local Error Result → (Error → Dialogue Op Answer Local Error Result) →
    Dialogue Op Answer Local Error Result
  | .done result, _ => .done result
  | .fail error, handler => handler error
  | .act effect step, handler => .act effect fun before => (step before).rescue handler
  | .ask op step, handler => .ask op fun answer => (step answer).rescue handler

def ensuring : Dialogue Op Answer Local Error Result → Dialogue Op Answer Local Error Unit →
    Dialogue Op Answer Local Error Result
  | .done result, cleanUp => cleanUp.andThen fun _ => .done result
  | .fail error, cleanUp => cleanUp.andThen fun _ => .fail error
  | .act effect step, cleanUp => .act effect fun before => (step before).ensuring cleanUp
  | .ask op step, cleanUp => .ask op fun answer => (step answer).ensuring cleanUp

def here : Dialogue Op Answer Local Error Local := .act id .done

def change (effect : Local → Local) : Dialogue Op Answer Local Error Unit := .act effect fun _ => .done ()

def demand (condition : Prop) [Decidable condition] (error : Error) : Dialogue Op Answer Local Error Unit :=
  if condition then .done () else .fail error

end

def request {Op : Type} {Value : Op → Type} {Local Error : Type} (op : Op) :
    Dialogue Op (fun op => Except Error (Value op)) Local Error (Value op) :=
  .ask op fun
    | .ok value => .done value
    | .error error => .fail error

/-- A program at rest: about to run, waiting for an answer, or over. -/
inductive Thread (Op : Type) (Answer : Op → Type) (Local Error Result : Type) : Type where
  | ready (program : Dialogue Op Answer Local Error Result)
  | waiting (op : Op) (next : Answer op → Dialogue Op Answer Local Error Result)
  | ended (result : Except Error Result)

section

variable {Op : Type} {Answer : Op → Type} {Local Error Result Other Known : Type}

def settle : Dialogue Op Answer Local Error Result → Local → Thread Op Answer Local Error Result × Local
  | .done result, state => (.ended (.ok result), state)
  | .fail error, state => (.ended (.error error), state)
  | .act effect next, state => (next state).settle (effect state)
  | .ask op next, state => (.waiting op next, state)

/-- What a thread owes when it asks (`issues`, with its local state as the piece of code began
and as it is now), what an answer tells it (`answers`), and what the others leave of its local
state (`relies`). -/
structure Rules (Op : Type) (Answer : Op → Type) (Local Known : Type) where
  issues : Known → Local → Local → Op → Known → Prop
  answers : Known → (op : Op) → Answer op → Known → Prop
  relies : Known → Local → Local → Prop
  relies_trans {known : Known} {first second third : Local} (before : relies known first second)
    (after : relies known second third) : relies known first third
  relies_through {known told : Known} {op : Op} {answer : Answer op} {first second third : Local}
    (tells : answers known op answer told) (before : relies known first second) (after : relies told second third) :
    relies told first third

variable (rules : Rules Op Answer Local Known)

/-- The program, run on from `state` in a piece of code that began with `since`, owes what the
rules ask of it and ends as `post` says. -/
def Holds : Dialogue Op Answer Local Error Result → Known → Local → Local →
    (Except Error Result → Known → Local → Local → Prop) → Prop
  | .done result, known, since, state, post => post (.ok result) known since state
  | .fail error, known, since, state, post => post (.error error) known since state
  | .act effect next, known, since, state, post => (next state).Holds known since (effect state) post
  | .ask op next, known, since, state, post =>
      ∃ issued, rules.issues known since state op issued ∧
        ∀ answer told, rules.answers issued op answer told →
          ∀ later, rules.relies told state later → (next answer).Holds told later later post

/-- What is left to do of a thread at rest, its local state last seen as `state`. -/
def Thread.Keeps (known : Known) (state : Local) (post : Except Error Result → Known → Local → Local → Prop) :
    Thread Op Answer Local Error Result → Prop
  | .ready program => ∀ later, rules.relies known state later → program.Holds rules known later later post
  | .waiting op next =>
      ∀ answer told, rules.answers known op answer told →
        ∀ later, rules.relies told state later → (next answer).Holds rules told later later post
  | .ended _ => True

variable {rules} {program : Dialogue Op Answer Local Error Result} {known : Known} {since state later : Local}
  {post other : Except Error Result → Known → Local → Local → Prop}

theorem Holds.mono (holds : program.Holds rules known since state post)
    (weaker : ∀ result known since state, post result known since state → other result known since state) :
    program.Holds rules known since state other := by
  induction program generalizing known since state with
  | done result => exact weaker _ _ _ _ holds
  | fail error => exact weaker _ _ _ _ holds
  | act effect next ih => exact ih _ holds
  | ask op next ih =>
    obtain ⟨issued, issues, after⟩ := holds
    refine ⟨issued, issues, ?_⟩
    intro answer told tells later relies
    exact ih answer (after answer told tells later relies)

section
variable {next : Result → Dialogue Op Answer Local Error Other}
  {last : Except Error Other → Known → Local → Local → Prop}

theorem holds_andThen
    (holds : program.Holds rules known since state fun result known since state =>
      match result with
      | .ok value => (next value).Holds rules known since state last
      | .error error => last (.error error) known since state) :
    (program.andThen next).Holds rules known since state last := by
  induction program generalizing known since state with
  | done result => exact holds
  | fail error => exact holds
  | act effect step ih => exact ih _ holds
  | ask op step ih =>
    obtain ⟨issued, issues, after⟩ := holds
    refine ⟨issued, issues, ?_⟩
    intro answer told tells later relies
    exact ih answer (after answer told tells later relies)

/-- What is known of the first part is all the rest needs. -/
theorem Holds.andThen (holds : program.Holds rules known since state post)
    (ok : ∀ value known since state, post (.ok value) known since state → (next value).Holds rules known since state last)
    (error : ∀ error known since state, post (.error error) known since state → last (.error error) known since state) :
    (program.andThen next).Holds rules known since state last := by
  apply holds_andThen
  apply holds.mono
  intro result known since state held
  cases result with
  | ok value => exact ok value known since state held
  | error failure => exact error failure known since state held

end

section

variable {handler : Error → Dialogue Op Answer Local Error Result}

theorem holds_rescue
    (holds : program.Holds rules known since state fun result known since state =>
      match result with
      | .ok value => post (.ok value) known since state
      | .error error => (handler error).Holds rules known since state post) :
    (program.rescue handler).Holds rules known since state post := by
  induction program generalizing known since state with
  | done result => exact holds
  | fail error => exact holds
  | act effect step ih => exact ih _ holds
  | ask op step ih =>
    obtain ⟨issued, issues, after⟩ := holds
    refine ⟨issued, issues, ?_⟩
    intro answer told tells later relies
    exact ih answer (after answer told tells later relies)

/-- One thing holds of a result, another of an error. -/
def Ends (kept gone : Known → Local → Local → Prop) : Except Error Result → Known → Local → Local → Prop
  | .ok _ => kept
  | .error _ => gone

theorem Holds.rescue (post : Except Error Result → Known → Local → Local → Prop)
    (holds : program.Holds rules known since state post)
    (ok : ∀ value known since state, post (.ok value) known since state → other (.ok value) known since state)
    (error : ∀ error known since state, post (.error error) known since state →
      (handler error).Holds rules known since state other) :
    (program.rescue handler).Holds rules known since state other := by
  apply holds_rescue
  apply holds.mono
  intro result known since state held
  cases result with
  | ok value => exact ok value known since state held
  | error failure => exact error failure known since state held

end

theorem holds_ensuring {cleanUp : Dialogue Op Answer Local Error Unit}
    (holds : program.Holds rules known since state fun result known since state =>
      cleanUp.Holds rules known since state fun cleaned known since state =>
        match cleaned with
        | .ok _ => post result known since state
        | .error error => post (.error error) known since state) :
    (program.ensuring cleanUp).Holds rules known since state post := by
  induction program generalizing known since state with
  | done result =>
    apply holds_andThen
    have cleaned : cleanUp.Holds rules known since state _ := holds
    apply cleaned.mono
    intro outcome known since state held
    cases outcome <;> exact held
  | fail error =>
    apply holds_andThen
    have cleaned : cleanUp.Holds rules known since state _ := holds
    apply cleaned.mono
    intro outcome known since state held
    cases outcome <;> exact held
  | act effect step ih => exact ih _ holds
  | ask op step ih =>
    obtain ⟨issued, issues, after⟩ := holds
    refine ⟨issued, issues, ?_⟩
    intro answer told tells later relies
    exact ih answer (after answer told tells later relies)

theorem holds_demand {condition : Prop} [Decidable condition] {failure : Error}
    {next : Unit → Dialogue Op Answer Local Error Result}
    (met : condition → (next ()).Holds rules known since state post)
    (unmet : ¬ condition → post (.error failure) known since state) :
    ((demand condition failure).andThen next).Holds rules known since state post := by
  unfold demand
  split
  · next holds => exact met holds
  · next fails => exact unmet fails

theorem holds_here {next : Local → Dialogue Op Answer Local Error Result}
    (holds : (next state).Holds rules known since state post) :
    (here.andThen next).Holds rules known since state post := holds

theorem holds_change {effect : Local → Local} {next : Unit → Dialogue Op Answer Local Error Result}
    (holds : (next ()).Holds rules known since (effect state) post) :
    ((change effect).andThen next).Holds rules known since state post := holds

/-- A program that runs to its next await owes there what the rules ask of it. -/
theorem Holds.settled (holds : program.Holds rules known since state post) : match program.settle state with
    | (.ready _, _) => False
    | (.waiting op next, rest) =>
        ∃ issued, rules.issues known since rest op issued ∧ (Thread.waiting op next).Keeps rules issued rest post
    | (.ended result, rest) => post result known since rest := by
  induction program generalizing state with
  | done result => exact holds
  | fail error => exact holds
  | act effect next ih => exact ih _ holds
  | ask op next ih => exact holds

/-- The others may go on. -/
theorem Thread.Keeps.stable {thread : Thread Op Answer Local Error Result} (keeps : thread.Keeps rules known state post)
    (moves : rules.relies known state later) : thread.Keeps rules known later post := by
  cases thread with
  | ready program => exact fun last relies => keeps last (rules.relies_trans moves relies)
  | waiting op next =>
    intro answer told tells last relies
    exact keeps answer told tells last (rules.relies_through tells moves relies)
  | ended result => trivial

theorem Thread.Keeps.answered {op : Op} {next : Answer op → Dialogue Op Answer Local Error Result}
    (keeps : (Thread.waiting op next).Keeps rules known state post) {answer : Answer op} {told : Known}
    (tells : rules.answers known op answer told) : (Thread.ready (next answer)).Keeps rules told state post :=
  keeps answer told tells

end

end Dialogue

end SpaceApp.Foundation
