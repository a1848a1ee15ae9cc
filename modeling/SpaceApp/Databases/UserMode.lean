import SpaceApp.Foundation.Reach
import SpaceApp.Databases.Connections

/-! What a request in user mode can do to SpaceApp's own database, and whose adapters a user gets.
-/

set_option autoImplicit false

namespace SpaceApp.Databases

open Foundation (Along mem_modify)

section

variable {Database Session Value : Type} (server : Server Database Session Value)

/-- Who names the admin mode has the role for it, or asks for a connection of his own. -/
def ModeAllowed (db : Database) (request : Request) : Prop :=
  request.mode = .admin → isUserAdmin request.user = true ∨
    (request.connection ≠ internalId ∧
      ∀ row, server.connectionRow db request.connection = some row → request.userId = some row.ownerUserId)

/-- What user mode may do with an adapter of the internal connection: send a text that only reads,
or one that stays in the transaction its client is left in; and otherwise what an adapter made for
user mode refuses. -/
def OperationAllowed (adapter : Adapter Session) (clients : Nat → Nat) : Operation Value → Prop
  | .executeSql options =>
      server.OnlyReads options.sql ∨
        (adapter.madeFor = .user ∧ server.inTransaction (adapter.sessions (clients 0)) = true ∧
          server.Confined options.sql)
  | _ => adapter.madeFor = .user

def Guarded (state : State Database Session) : Event Database Value → Prop
  | .check request => ModeAllowed server state.db request
  | .operate number operation clients =>
      ∀ call held adapter, state.calls[number]? = some call → call.phase = .holding held →
        state.adapters[held]? = some adapter → call.request.mode = .user → call.connection.id = internalId →
          OperationAllowed server adapter clients operation
  | _ => True

/-- A user without the role holds a connection of his own. -/
def Call.Owned (call : Call) : Prop :=
  isUserAdmin call.request.user = false → call.request.userId = some call.connection.ownerUserId

/-- A user without the role is let in to his own connections and takes adapters of these alone; and
what user mode does on the internal connection leaves the database as it was. -/
def Kept (state : State Database Session) (event : Event Database Value) : Prop :=
  match event with
  | .check request =>
      (step server state event).db = state.db ∧
        ∀ connection, getConnection server state.db request = .ok connection →
          connection.id = request.connection ∧
            (isUserAdmin request.user = false → request.userId = some connection.ownerUserId)
  | .take number =>
      (step server state event).db = state.db ∧
        ∀ call held, (step server state event).calls[number]? = some call → call.phase = .holding held →
          call.Owned ∧ ∃ adapter, (step server state event).adapters[held]? = some adapter ∧
            adapter.connection = call.connection.id
  | .operate number _ _ =>
      ∀ call, state.calls[number]? = some call → call.request.mode = .user → call.connection.id = internalId →
        (step server state event).db = state.db
  | _ => True

variable {server}

theorem sendAll_cons (sessions : Nat → Session) (db : Database) (client : Nat) (statement : Statement Value)
    (rest : List (Nat × Statement Value)) : sendAll server sessions db ((client, statement) :: rest) =
      if (server.run (sessions client) db statement).2.2 then
        sendAll server (Function.update sessions client (server.run (sessions client) db statement).1)
          (server.run (sessions client) db statement).2.1 rest
      else
        (Function.update sessions client (server.run (sessions client) db statement).1,
          (server.run (sessions client) db statement).2.1) := rfl

theorem sendAll_keeps {statements : List (Nat × Statement Value)}
    (keeps : ∀ entry ∈ statements, ∀ session db, (server.run session db entry.2).2.1 = db)
    (sessions : Nat → Session) (db : Database) : (sendAll server sessions db statements).2 = db := by
  induction statements generalizing sessions with
  | nil => rfl
  | cons entry rest ih =>
    have here := keeps entry (by simp) (sessions entry.1) db
    have later := ih fun other member => keeps other (by simp [member])
    rw [sendAll_cons]
    split
    · rw [here]
      exact later _
    · exact here

/-- Settings, on a client: what follows them runs on sessions that are as much in a transaction as
before, when a setting does not fail. -/
theorem sendAll_settings (lawful : server.Lawful) (client : Nat) (settings : List (Statement Value))
    (all_settings : ∀ statement ∈ settings, Setting statement) (rest : List (Nat × Statement Value))
    (sessions : Nat → Session) (db : Database) :
    (sendAll server sessions db (settings.map (fun statement => (client, statement)) ++ rest)).2 = db ∨
      ∃ later : Nat → Session,
        (sendAll server sessions db (settings.map (fun statement => (client, statement)) ++ rest)).2 =
          (sendAll server later db rest).2 ∧
        server.inTransaction (later client) = server.inTransaction (sessions client) ∧
        server.inReadOnly (later client) = server.inReadOnly (sessions client) := by
  induction settings generalizing sessions with
  | nil => exact .inr ⟨sessions, rfl, rfl, rfl⟩
  | cons statement settings ih =>
    obtain ⟨same, transaction, readOnly⟩ := lawful.setting (sessions client) db statement (all_settings _ (by simp))
    rw [List.map_cons, List.cons_append, sendAll_cons]
    split
    · rw [same]
      have further := ih (fun other member => all_settings other (by simp [member]))
        (Function.update sessions client (server.run (sessions client) db statement).1)
      simp only [Function.update_self, transaction, readOnly] at further
      exact further
    · exact .inl same

theorem readOnly_keeps (lawful : server.Lawful) (session : Session) (db : Database) :
    (server.run session db (plain readOnlyText)).2.1 = db := by
  cases transaction : server.inTransaction session with
  | false => rw [lawful.set_outside session db transaction]
  | true => exact (lawful.set_inside session db transaction).1

theorem executeSql_sending (options : SqlOptions) (clients : Nat → Nat) (statements : List (Statement Value)) :
    (Operation.executeSql options).sending clients statements =
      statements.map fun statement => (clients 0, statement) := by
  refine List.ext_getElem? fun index => ?_
  simp [Operation.sending, Operation.clientOf]

def laterSettings (options : SqlOptions) : List (Statement Value) :=
  plain timeoutText ::
    match filled options.schema with
    | some schema => [plain (searchPathText schema)]
    | none => []

theorem laterSettings_settings (options : SqlOptions) :
    ∀ statement ∈ (laterSettings options : List (Statement Value)), Setting statement := by
  intro statement member
  simp only [laterSettings, List.mem_cons] at member
  rcases member with rfl | later
  · exact .inr (.inl rfl)
  · split at later
    · next schema _ => exact .inr (.inr ⟨schema, by simpa using later⟩)
    · simp at later

theorem preliminaries_eq (isReadOnly : Bool) (options : SqlOptions) :
    (preliminaries isReadOnly options : List (Statement Value)) =
      [plain pidText] ++ ((if isReadOnly then [plain readOnlyText] else []) ++ laterSettings options) := rfl

theorem executeSql_performed (adapter : Adapter Session) {db : Database} {options : SqlOptions}
    {clients : Nat → Nat} (reached : ¬(adapter.closed = true ∨ ¬adapter.onInternal = true)) :
    (adapter.perform server db (.executeSql options) clients).2 =
      (sendAll server adapter.sessions db
        ((preliminaries adapter.isReadOnly options ++ [plain options.sql]).map
          fun statement => (clients 0, statement))).2 := by
  simp only [Adapter.perform, if_neg reached, Operation.statements, executeSql_sending]

/-- A text that only reads changes nothing, whichever adapter sends it. -/
theorem executeSql_reads (lawful : server.Lawful) {options : SqlOptions} (reads : server.OnlyReads options.sql)
    (adapter : Adapter Session) (db : Database) (clients : Nat → Nat) :
    (adapter.perform server db (.executeSql options) clients).2 = db := by
  by_cases reached : ¬(adapter.closed = true ∨ ¬adapter.onInternal = true)
  · rw [executeSql_performed adapter reached]
    refine sendAll_keeps (fun entry member session db => ?_) adapter.sessions db
    obtain ⟨statement, listed, rfl⟩ := List.mem_map.mp member
    rw [preliminaries_eq] at listed
    simp only [List.mem_append, List.mem_singleton] at listed
    rcases listed with (rfl | readOnly | later) | rfl
    · exact (lawful.setting session db _ (.inl rfl)).1
    · have which : statement = plain readOnlyText := by
        split at readOnly
        · simpa using readOnly
        · simp at readOnly
      rw [which]
      exact readOnly_keeps lawful session db
    · exact (lawful.setting session db _ (laterSettings_settings options statement later)).1
    · exact reads session db
  · rw [not_not] at reached
    rw [Adapter.perform, if_pos reached]

/-- In a transaction SET TRANSACTION has its effect: a text that stays in it changes nothing. -/
theorem executeSql_confined (lawful : server.Lawful) {options : SqlOptions} {adapter : Adapter Session}
    {clients : Nat → Nat} (confined : server.Confined options.sql) (readOnly : adapter.isReadOnly = true)
    (inside : server.inTransaction (adapter.sessions (clients 0)) = true) (db : Database) :
    (adapter.perform server db (.executeSql options) clients).2 = db := by
  by_cases reached : ¬(adapter.closed = true ∨ ¬adapter.onInternal = true)
  · rw [executeSql_performed adapter reached, readOnly, preliminaries_eq]
    simp only [if_true, List.append_assoc, List.map_append]
    rcases sendAll_settings lawful (clients 0) [plain pidText] (by simp [Setting]) _ adapter.sessions db with
      failed | ⟨later, same, transaction, _⟩
    · exact failed
    · rw [same]
      rw [inside] at transaction
      obtain ⟨kept, set⟩ := lawful.set_inside (later (clients 0)) db transaction
      rw [List.map_singleton, List.cons_append, List.nil_append, sendAll_cons]
      split
      · next ok =>
        rw [kept]
        have set := set ok
        rcases sendAll_settings lawful (clients 0) (laterSettings options) (laterSettings_settings options)
          ([plain options.sql].map fun statement => (clients 0, statement))
          (Function.update later (clients 0) (server.run (later (clients 0)) db (plain readOnlyText)).1) db with
          failed | ⟨last, same, _, still⟩
        · exact failed
        · rw [same]
          rw [Function.update_self, set] at still
          have unchanged := confined (last (clients 0)) db still
          rw [List.map_singleton, sendAll_cons]
          split <;> exact unchanged
      · exact kept
  · rw [not_not] at reached
    rw [Adapter.perform, if_pos reached]

/-- Outside of a transaction it has none: a read-only adapter sends a text like any other. -/
theorem executeSql_unguarded (lawful : server.Lawful) (adapter : Adapter Session) (options : SqlOptions)
    (clients : Nat → Nat) (outside : server.inTransaction (adapter.sessions (clients 0)) = false) (db : Database) :
    ({ adapter with isReadOnly := true }.perform server db (.executeSql options) clients).2 =
      ({ adapter with isReadOnly := false }.perform server db (.executeSql options) clients).2 := by
  by_cases reached : ¬(adapter.closed = true ∨ ¬adapter.onInternal = true)
  · rw [executeSql_performed { adapter with isReadOnly := true } reached,
      executeSql_performed { adapter with isReadOnly := false } reached, preliminaries_eq, preliminaries_eq]
    have same : ∀ rest : List (Nat × Statement Value), ∀ sessions db,
        server.inTransaction (sessions (clients 0)) = false →
        sendAll server sessions db ((clients 0, plain readOnlyText) :: rest) = sendAll server sessions db rest := by
      intro rest sessions db outside
      rw [sendAll_cons, lawful.set_outside _ _ outside, if_pos rfl, Function.update_eq_self]
    obtain ⟨_, transaction, _⟩ := lawful.setting (adapter.sessions (clients 0)) db (plain pidText) (.inl rfl)
    rw [outside] at transaction
    simp only [if_true, Bool.false_eq_true, if_false, List.nil_append, List.map_append, List.map_cons, List.map_nil,
      List.cons_append, sendAll_cons _ _ _ (plain pidText)]
    rw [same _ _ _ (by rw [Function.update_self]; exact transaction)]
  · rw [not_not] at reached
    rw [Adapter.perform, Adapter.perform, if_pos reached, if_pos reached]

/-- A read-only adapter refuses every operation but `executeSql`. -/
theorem perform_refused {adapter : Adapter Session} (readOnly : adapter.isReadOnly = true)
    {operation : Operation Value} (other : ∀ options, operation ≠ .executeSql options) (db : Database)
    (clients : Nat → Nat) : adapter.perform server db operation clients = (adapter.sessions, db) := by
  have refused : ∃ message, operation.statements adapter.isReadOnly = .error message := by
    rw [readOnly]
    cases operation with
    | executeSql options => exact absurd rfl (other options)
    | mutateRow table options => exact ⟨_, rfl⟩
    | alterTable table options => exact ⟨_, rfl⟩
    | importData options => exact ⟨_, rfl⟩
  obtain ⟨message, refused⟩ := refused
  rw [Adapter.perform, refused]
  split <;> rfl

def State.AdapterOf (state : State Database Session) (held : Nat) (connection : Text) : Prop :=
  ∃ adapter, state.adapters[held]? = some adapter ∧ adapter.connection = connection

structure Call.Sound (call : Call) : Prop where
  internal : call.connection.id = internalId → call.connection = getInternalConnection call.request.mode
  owned : call.Owned

/-- The adapters of the internal connection are read-only exactly when they were made for user mode. -/
structure Sound (state : State Database Session) : Prop where
  cached : ∀ connection held, state.cache connection = some held → state.AdapterOf held connection
  held : ∀ call ∈ state.calls, ∀ held, call.phase = .holding held → state.AdapterOf held call.connection.id
  calls : ∀ call ∈ state.calls, call.Sound
  flags : ∀ adapter ∈ state.adapters, adapter.connection = internalId →
    (adapter.isReadOnly = true ↔ adapter.madeFor = .user)

theorem sound_start {state : State Database Session} (fresh : state.Fresh) : Sound state := by
  refine ⟨?_, ?_, ?_, ?_⟩ <;> simp [fresh.adapters, fresh.cache, fresh.calls]

theorem getConnection_ok {db : Database} {request : Request} {connection : Connection}
    (given : getConnection server db request = .ok connection) :
    (request.connection = internalId ∧ request.isAdmin = true ∧ connection = getInternalConnection request.mode) ∨
      (request.connection ≠ internalId ∧ ∃ row, server.connectionRow db request.connection = some row ∧
        connection = { row with id := request.connection } ∧
        (request.isAdmin = false → request.userId = some row.ownerUserId)) := by
  rw [getConnection] at given
  split at given
  · next internal =>
    split at given
    · next admin =>
      rw [Except.ok.injEq] at given
      exact .inl ⟨internal, admin, given.symm⟩
    · simp at given
  · next external =>
    split at given
    · simp at given
    · next row found =>
      split at given
      · simp at given
      · next open_ =>
        rw [Except.ok.injEq] at given
        refine .inr ⟨external, row, found, given.symm, fun no_admin => ?_⟩
        simpa [no_admin] using open_

/-- A request that keeps to its mode is let in to a connection of its user, or has the role. -/
theorem getConnection_owned {db : Database} {request : Request} {connection : Connection}
    (allowed : ModeAllowed server db request) (given : getConnection server db request = .ok connection) :
    connection.id = request.connection ∧ Call.Sound ⟨request, connection, .checked⟩ := by
  rcases getConnection_ok given with ⟨internal, admin, rfl⟩ | ⟨external, row, found, rfl, owner⟩
  · refine ⟨internal.symm, fun _ => rfl, fun no_role => ?_⟩
    have mode : request.mode = .admin := by simpa [Request.isAdmin, no_role] using admin
    rcases allowed mode with role | ⟨external, _⟩
    · simp [no_role] at role
    · exact absurd internal external
  · refine ⟨rfl, fun same => absurd same external, fun no_role => ?_⟩
    cases mode : request.mode with
    | user => exact owner (by simp [Request.isAdmin, no_role, mode])
    | admin =>
      rcases allowed mode with role | ⟨_, owns⟩
      · simp [no_role] at role
      · exact owns row found

/-! One lemma for each kind of change of the adapters: a number keeps its connection. -/

theorem adapterOf_append {state : State Database Session} {held : Nat} {connection : Text}
    (here : state.AdapterOf held connection) (more : List (Adapter Session)) :
    ∃ adapter, (state.adapters ++ more)[held]? = some adapter ∧ adapter.connection = connection := by
  obtain ⟨adapter, found, same⟩ := here
  have bound := (List.getElem?_eq_some_iff.mp found).1
  exact ⟨adapter, by rw [List.getElem?_append_left bound]; exact found, same⟩

theorem adapterOf_modify {state : State Database Session} {held other : Nat} {connection : Text}
    (here : state.AdapterOf held connection) (change : Adapter Session → Adapter Session)
    (keeps : ∀ adapter, (change adapter).connection = adapter.connection) :
    ∃ adapter, (state.adapters.modify other change)[held]? = some adapter ∧ adapter.connection = connection := by
  obtain ⟨adapter, found, same⟩ := here
  rw [List.getElem?_modify, found]
  by_cases which : other = held
  · exact ⟨change adapter, by simp [which], by rw [keeps, same]⟩
  · exact ⟨adapter, by simp [which], same⟩

theorem Sound.modify {state : State Database Session} (sound : Sound state) (other : Nat)
    (change : Adapter Session → Adapter Session) (keeps : ∀ adapter, (change adapter).connection = adapter.connection)
    (flags : ∀ adapter, (change adapter).isReadOnly = adapter.isReadOnly ∧ (change adapter).madeFor = adapter.madeFor)
    (cache : Text → Option Nat)
    (fewer : ∀ connection held, cache connection = some held → state.cache connection = some held) (db : Database) :
    Sound { state with db := db, adapters := state.adapters.modify other change, cache := cache } := by
  refine ⟨fun connection held cached => ?_, fun call member held holds => ?_, sound.calls, fun adapter member => ?_⟩
  · exact adapterOf_modify (sound.cached connection held (fewer connection held cached)) change keeps
  · exact adapterOf_modify (sound.held call member held holds) change keeps
  · rcases mem_modify member with old | ⟨before, there, rfl⟩
    · exact sound.flags adapter old
    · rw [keeps, (flags before).1, (flags before).2]
      exact sound.flags before (List.mem_of_getElem? there)

theorem set_call {calls : List Call} {number : Nat} {changed : Call} {property : Call → Prop}
    (each : ∀ other ∈ calls, property other) (here : property changed) :
    ∀ other ∈ calls.set number changed, property other := by
  intro other member
  rcases List.mem_or_eq_of_mem_set member with old | rfl
  · exact each other old
  · exact here

theorem Sound.set {state : State Database Session} (sound : Sound state) (number : Nat) {changed : Call}
    (fits : changed.Sound) (holds : ∀ held, changed.phase = .holding held → state.AdapterOf held changed.connection.id) :
    Sound { state with calls := state.calls.set number changed } := by
  refine { sound with held := ?_, calls := set_call sound.calls fits }
  exact set_call sound.held holds

theorem Sound.taken (server : Server Database Session Value) {state : State Database Session} (sound : Sound state) {call : Call} (fits : call.Sound) :
    Sound (getAdapterForConnection server state call).1 ∧
      (getAdapterForConnection server state call).1.AdapterOf (getAdapterForConnection server state call).2
        call.connection.id := by
  rw [getAdapterForConnection]
  split
  · next held cached => exact ⟨sound, sound.cached _ held cached⟩
  · have made : (state.adapters ++ [newAdapter server call])[state.adapters.length]? = some (newAdapter server call) :=
      List.getElem?_concat_length
    refine ⟨⟨fun connection held cached => ?_, fun other member held holds => ?_, sound.calls,
      fun adapter member => ?_⟩, newAdapter server call, made, rfl⟩
    · by_cases which : connection = call.connection.id
      · simp only [which, Function.update_self, Option.some.injEq] at cached
        exact ⟨newAdapter server call, by rw [← cached]; exact made, which.symm⟩
      · simp only [Function.update_of_ne which] at cached
        exact adapterOf_append (sound.cached connection held cached) _
    · exact adapterOf_append (sound.held other member held holds) _
    · rcases List.mem_append.mp member with old | new
      · exact sound.flags adapter old
      · rw [List.mem_singleton.mp new]
        intro same
        -- the connection is the internal one, read for the mode of the request
        have internal := fits.internal same
        have flag : (newAdapter server call).isReadOnly = decide (call.request.mode ≠ .admin) := by
          rw [newAdapter, internal]
          rfl
        rw [flag]
        change decide (call.request.mode ≠ .admin) = true ↔ call.request.mode = .user
        cases call.request.mode <;> simp

theorem getAdapterForConnection_same (server : Server Database Session Value) (state : State Database Session)
    (call : Call) : (getAdapterForConnection server state call).1.db = state.db ∧
      (getAdapterForConnection server state call).1.calls = state.calls := by
  rw [getAdapterForConnection]
  split <;> exact ⟨rfl, rfl⟩

/-- What user mode may do with an adapter whose flag fits changes nothing. -/
theorem perform_allowed (lawful : server.Lawful) {adapter : Adapter Session} {operation : Operation Value}
    {clients : Nat → Nat} (flag : adapter.isReadOnly = true ↔ adapter.madeFor = .user)
    (allowed : OperationAllowed server adapter clients operation) (db : Database) :
    (adapter.perform server db operation clients).2 = db := by
  cases operation with
  | executeSql options =>
    rcases allowed with reads | ⟨made, inside, confined⟩
    · exact executeSql_reads lawful reads adapter db clients
    · exact executeSql_confined lawful confined (flag.mpr made) inside db
  | mutateRow table options => rw [perform_refused (flag.mpr allowed) (by simp)]
  | alterTable table options => rw [perform_refused (flag.mpr allowed) (by simp)]
  | importData options => rw [perform_refused (flag.mpr allowed) (by simp)]

/-- A step that meets its condition keeps the invariant and what it promises. -/
theorem step_kept (lawful : server.Lawful) {state : State Database Session} (sound : Sound state)
    (event : Event Database Value) (guarded : Guarded server state event) :
    Kept server state event ∧ Sound (step server state event) := by
  cases event with
  | check request =>
    cases given : getConnection server state.db request with
    | error message =>
      simp only [Kept, step, given]
      exact ⟨⟨trivial, fun _ same => by cases same⟩, sound⟩
    | ok connection =>
      obtain ⟨same, fits⟩ := getConnection_owned guarded given
      simp only [Kept, step, given, true_and, Except.ok.injEq, forall_eq']
      refine ⟨⟨same, fits.owned⟩, sound.cached, fun call member held holds => ?_, fun call member => ?_, sound.flags⟩
      · rcases List.mem_append.mp member with old | new
        · exact sound.held call old held holds
        · rw [List.mem_singleton.mp new] at holds
          simp at holds
      · rcases List.mem_append.mp member with old | new
        · exact sound.calls call old
        · rw [List.mem_singleton.mp new]
          exact fits
  | take number =>
    cases found : state.calls[number]? with
    | none =>
      simp only [Kept, step, found]
      exact ⟨⟨trivial, fun _ _ none_ => by cases none_⟩, sound⟩
    | some call =>
      have member := List.mem_of_getElem? found
      have fits := sound.calls call member
      by_cases checked : call.phase = .checked
      · obtain ⟨still, adapterOf⟩ := sound.taken server fits
        obtain ⟨same, calls⟩ := getAdapterForConnection_same server state call
        have bound := (List.getElem?_eq_some_iff.mp found).1
        let changed : Call := { call with phase := .holding (getAdapterForConnection server state call).2 }
        have changed_fits : changed.Sound := ⟨fits.internal, fits.owned⟩
        have after := still.set number changed_fits fun held holds => by
          rw [← Phase.holding.inj holds]
          exact adapterOf
        rw [calls] at after
        simp only [Kept, step, found, if_pos checked]
        refine ⟨⟨same, fun other held given holds => ?_⟩, after⟩
        rw [List.getElem?_set_self bound, Option.some.injEq] at given
        subst given
        rw [← Phase.holding.inj holds]
        exact ⟨fits.owned, adapterOf⟩
      · simp only [Kept, step, found, if_neg checked, Option.some.injEq]
        refine ⟨⟨trivial, ?_⟩, sound⟩
        rintro other held rfl holds
        exact ⟨fits.owned, sound.held _ member held holds⟩
  | operate number operation clients =>
    cases found : state.calls[number]? with
    | none =>
      simp only [Kept, step, found]
      exact ⟨fun _ none_ => (by cases none_), sound⟩
    | some call =>
      have member := List.mem_of_getElem? found
      have fits := sound.calls call member
      cases phase : call.phase with
      | checked =>
        simp only [Kept, step, found, phase, implies_true, true_and]
        exact sound
      | answered =>
        simp only [Kept, step, found, phase, implies_true, true_and]
        exact sound
      | holding held =>
        obtain ⟨adapter, there, same⟩ := sound.held call member held phase
        have modified := sound.modify held
          (fun adapter' => { adapter' with sessions := (adapter.perform server state.db operation clients).1 })
          (fun _ => rfl) (fun _ => ⟨rfl, rfl⟩) state.cache (fun _ _ cached => cached)
          (adapter.perform server state.db operation clients).2
        have answered : ({ call with phase := .answered } : Call).Sound := ⟨fits.internal, fits.owned⟩
        have after := modified.set number answered fun other holds => by simp at holds
        simp only [Kept, step, found, phase, there, Option.some.injEq]
        refine ⟨?_, after⟩
        rintro other rfl mode internal
        have allowed := guarded call held adapter found phase there mode internal
        rw [internal] at same
        have flag := sound.flags adapter (List.mem_of_getElem? there) same
        exact perform_allowed lawful flag allowed state.db
  | evict connection =>
    refine ⟨trivial, ?_⟩
    simp only [step]
    split
    · refine sound.modify _ (fun adapter => { adapter with closed := true }) (fun _ => rfl) (fun _ => ⟨rfl, rfl⟩) _
        (fun other held cached => ?_) state.db
      by_cases which : other = connection
      · simp [which] at cached
      · rwa [Function.update_of_ne which] at cached
    · exact sound
  | renew held client =>
    refine ⟨trivial, ?_⟩
    exact sound.modify held
      (fun adapter => { adapter with sessions := Function.update adapter.sessions client server.fresh })
      (fun _ => rfl) (fun _ => ⟨rfl, rfl⟩) state.cache (fun _ _ cached => cached) state.db
  | world db => exact ⟨trivial, sound.cached, sound.held, sound.calls, sound.flags⟩

theorem run_kept (lawful : server.Lawful) {state : State Database Session} (sound : Sound state)
    (events : List (Event Database Value)) (guarded : Along (step server) (Guarded server) state events) :
    Along (step server) (Kept server) state events := by
  induction events generalizing state with
  | nil => trivial
  | cons event rest ih =>
    obtain ⟨kept, further⟩ := step_kept lawful sound event guarded.1
    exact ⟨kept, ih further guarded.2⟩

/-- In every run whose steps meet their condition, user mode leaves SpaceApp's own database as it
was, and a user without the role takes adapters of his own connections alone. -/
theorem userMode_changes_nothing (lawful : server.Lawful) {start : State Database Session} (fresh : start.Fresh)
    (events : List (Event Database Value)) (guarded : Along (step server) (Guarded server) start events) :
    Along (step server) (Kept server) start events :=
  run_kept lawful (sound_start fresh) events guarded

end

/-! A PostgreSQL with one table of notes: how many there are, and in a session whether its
transaction is read only and how many it sees. -/

def deleteText : Text := "DELETE FROM notes".toList
def selectText : Text := "SELECT 1".toList

def notes : Server Nat (Option (Bool × Nat)) Unit where
  fresh := none
  inTransaction := fun session => session.isSome
  inReadOnly := fun session => session.any Prod.fst
  run := fun session db statement =>
    if statement.text = deleteText then
      match session with
      | none => (none, 0, true)
      | some (false, _) => (some (false, 0), db, true)
      | some (true, seen) => (some (true, seen), db, false)
    else if statement.text = "BEGIN".toList then (some (session.getD (false, db)), db, true)
    else if statement.text = "COMMIT".toList then (none, (session.map Prod.snd).getD db, true)
    else if statement.text = readOnlyText then (session.map fun transaction => (true, transaction.2), db, true)
    else (session, db, true)
  connectionRow := fun _ id =>
    if id = "conn_a".toList then some ⟨"user:ann".toList, .sqlite, false, false⟩ else none

theorem notes_other {statement : Statement Unit}
    (apart : statement.text ∉ [deleteText, "BEGIN".toList, "COMMIT".toList, readOnlyText])
    (session : Option (Bool × Nat)) (db : Nat) : notes.run session db statement = (session, db, true) := by
  simp only [List.mem_cons, List.not_mem_nil, or_false, not_or] at apart
  simp only [notes, apart, if_false]

theorem notes_lawful : notes.Lawful where
  set_outside := by
    intro session db outside
    cases session with
    | none => rfl
    | some transaction => exact nomatch (show true = false from outside)
  set_inside := by
    intro session db inside
    cases session with
    | none => exact nomatch (show false = true from inside)
    | some transaction => exact ⟨rfl, fun _ => rfl⟩
  setting := by
    intro session db statement setting
    have apart : statement.text ∉ [deleteText, "BEGIN".toList, "COMMIT".toList, readOnlyText] := by
      rcases setting with rfl | rfl | ⟨schema, rfl⟩
      · decide
      · decide
      · -- the fifth letter tells it from SET TRANSACTION, the first one from the others
        have begins : (searchPathText schema).take 5 = "SET s".toList := rfl
        intro member
        change searchPathText schema ∈ _ at member
        simp only [List.mem_cons, List.not_mem_nil, or_false] at member
        rcases member with same | same | same | same <;> rw [same] at begins <;> exact absurd begins (by decide)
    rw [notes_other apart]
    exact ⟨rfl, rfl, rfl⟩

theorem select_reads : notes.OnlyReads selectText := by
  intro session db
  rw [notes_other (by decide)]

def threeNotes : State Nat (Option (Bool × Nat)) := ⟨3, [], fun _ => none, []⟩

theorem threeNotes_fresh : threeNotes.Fresh := ⟨rfl, fun _ => rfl, rfl⟩

/-- An operator asks for the internal connection, in the mode of the header. -/
def operatorRequest (mode : Option Text) : Request := ⟨some ⟨"user:olga".toList, .operator⟩, none, mode, internalId⟩

def sqlOf (sql : Text) : Operation Unit := .executeSql ⟨sql, none⟩

theorem userMode_changes_nothing_select : Along (step notes) (Kept notes) threeNotes
    [.check (operatorRequest none), .take 0, .operate 0 (sqlOf selectText) id] := by
  refine userMode_changes_nothing notes_lawful threeNotes_fresh _ ⟨nofun, trivial, ?_, trivial⟩
  intro call held adapter _ _ _ _ _
  exact .inl select_reads

theorem executeSql_unguarded_delete :
    let adapter : Adapter (Option (Bool × Nat)) := ⟨internalId, true, true, .user, false, fun _ => none⟩
    (adapter.perform notes 3 (sqlOf deleteText) id).2 =
      ({ adapter with isReadOnly := false }.perform notes 3 (sqlOf deleteText) id).2 :=
  executeSql_unguarded notes_lawful ⟨internalId, true, true, .user, false, fun _ => none⟩ ⟨deleteText, none⟩ id rfl 3

/-- User mode deletes all notes, by a text or by an import through an adapter that was made for
admin mode; and a user without a role is let in to the internal connection. -/
theorem userMode_deletes : notes.Lawful ∧
    ¬Along (step notes) (Kept notes) threeNotes
      [.check (operatorRequest none), .take 0, .operate 0 (sqlOf deleteText) id] ∧
    ¬Along (step notes) (Kept notes) threeNotes
      [.check (operatorRequest (some "admin".toList)), .take 0, .check (operatorRequest none), .take 1,
        .operate 1 (.importData ⟨.sql, none, none, deleteText⟩) id] ∧
    ¬Along (step notes) (Kept notes) threeNotes
      [.check ⟨some ⟨"user:ann".toList, .user⟩, some "admin".toList, none, internalId⟩] := by
  refine ⟨notes_lawful, fun kept => ?_, fun kept => ?_, fun kept => ?_⟩
  · have same := kept.2.2.1 _ rfl (by decide) rfl
    exact absurd same (by decide)
  · have same := kept.2.2.2.2.1 _ rfl (by decide) rfl
    exact absurd same (by decide)
  · have owned := (kept.1.2 _ rfl).2 rfl
    exact absurd owned (by decide)

end SpaceApp.Databases
