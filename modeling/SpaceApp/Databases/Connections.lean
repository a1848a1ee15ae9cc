import SpaceApp.Foundation.Loop
import SpaceApp.Databases.Statements

/-! Who gets the adapter of which connection, the cache of the adapters, and what their operations
do to SpaceApp's own database.
-/

set_option autoImplicit false

namespace SpaceApp.Databases

inductive Role where
  | admin
  | operator
  | user
  deriving DecidableEq

structure User where
  id : Text
  role : Role
  deriving DecidableEq

inductive Mode where
  | user
  | admin
  deriving DecidableEq

structure Request where
  user : Option User
  queryMode : Option Text
  headerMode : Option Text
  connection : Text

def getRequestMode (query header : Option Text) : Mode :=
  if query = some "admin".toList ∨ header = some "admin".toList then .admin else .user

def Request.mode (request : Request) : Mode := getRequestMode request.queryMode request.headerMode

def isUserAdmin : Option User → Bool
  | some user => user.role = .admin || user.role = .operator
  | none => false

def Request.isAdmin (request : Request) : Bool := isUserAdmin request.user || request.mode = .admin

def Request.userId (request : Request) : Option Text := request.user.map User.id

structure ConnectionRow where
  ownerUserId : Text
  engine : Engine
  isInternal : Bool
  isReadOnly : Bool

structure Connection where
  id : Text
  ownerUserId : Text
  engine : Engine
  isInternal : Bool
  isReadOnly : Bool

def internalId : Text := "spaceapp-internal".toList

def getInternalConnection (mode : Mode) : Connection where
  id := internalId
  ownerUserId := "system".toList
  engine := .postgres
  isInternal := true
  isReadOnly := mode ≠ .admin

/-- What the code uses of PostgreSQL: a session runs a statement, and says whether it did. -/
structure Server (Database Session Value : Type) where
  fresh : Session
  inTransaction : Session → Bool
  inReadOnly : Session → Bool
  run : Session → Database → Statement Value → Session × Database × Bool
  connectionRow : Database → Text → Option ConnectionRow

section

variable {Database Session Value : Type} (server : Server Database Session Value)

def getConnection (db : Database) (request : Request) : Except String Connection :=
  if request.connection = internalId then
    if request.isAdmin then .ok (getInternalConnection request.mode)
    else .error "Admin privileges required to access internal database."
  else
    match server.connectionRow db request.connection with
    | none => .error "Connection not found"
    | some row =>
        if ¬request.isAdmin ∧ request.userId ≠ some row.ownerUserId then
          .error "Access denied to this database connection."
        else .ok ⟨request.connection, row.ownerUserId, row.engine, row.isInternal, row.isReadOnly⟩

structure Adapter (Session : Type) where
  connection : Text
  onInternal : Bool
  isReadOnly : Bool
  madeFor : Mode
  closed : Bool
  sessions : Nat → Session

inductive Phase where
  | checked
  | holding (adapter : Nat)
  | answered
  deriving DecidableEq

structure Call where
  request : Request
  connection : Connection
  phase : Phase

structure State (Database Session : Type) where
  db : Database
  adapters : List (Adapter Session)
  cache : Text → Option Nat
  calls : List Call

def newAdapter (call : Call) : Adapter Session where
  connection := call.connection.id
  onInternal := call.connection.engine = .postgres && call.connection.isInternal
  isReadOnly := call.connection.isReadOnly
  madeFor := call.request.mode
  closed := false
  sessions := fun _ => server.fresh

/-- The adapter of the connection in the cache, or a new one. -/
def getAdapterForConnection (state : State Database Session) (call : Call) : State Database Session × Nat :=
  match state.cache call.connection.id with
  | some number => (state, number)
  | none =>
      let number := state.adapters.length
      ({ state with
          adapters := state.adapters ++ [newAdapter server call]
          cache := Function.update state.cache call.connection.id (some number) }, number)

def sendAll (sessions : Nat → Session) (db : Database) : List (Nat × Statement Value) →
    (Nat → Session) × Database
  | [] => (sessions, db)
  | (client, statement) :: rest =>
      let (session, changed, ok) := server.run (sessions client) db statement
      let sessions := Function.update sessions client session
      if ok then sendAll sessions changed rest else (sessions, changed)

/-- `executeSql` keeps one client; the others take a client of the pool for each statement. -/
def Operation.clientOf (operation : Operation Value) (clients : Nat → Nat) (index : Nat) : Nat :=
  match operation with
  | .executeSql _ => clients 0
  | _ => clients index

def Operation.sending (operation : Operation Value) (clients : Nat → Nat) (statements : List (Statement Value)) :
    List (Nat × Statement Value) :=
  statements.mapIdx fun index statement => (operation.clientOf clients index, statement)

def Adapter.perform (adapter : Adapter Session) (db : Database) (operation : Operation Value)
    (clients : Nat → Nat) : (Nat → Session) × Database :=
  if adapter.closed ∨ ¬adapter.onInternal then (adapter.sessions, db)
  else
    match operation.statements adapter.isReadOnly with
    | .error _ => (adapter.sessions, db)
    | .ok statements => sendAll server adapter.sessions db (operation.sending clients statements)

inductive Event (Database Value : Type) where
  | check (request : Request)
  | take (call : Nat)
  | operate (call : Nat) (operation : Operation Value) (clients : Nat → Nat)
  | evict (connection : Text)
  | renew (adapter client : Nat)
  /-- Whatever else writes to SpaceApp's own database: the service itself, adapters of other
  connections, other programs. -/
  | world (db : Database)

def step (state : State Database Session) : Event Database Value → State Database Session
  | .check request =>
      match getConnection server state.db request with
      | .ok connection => { state with calls := state.calls ++ [⟨request, connection, .checked⟩] }
      | .error _ => state
  | .take number =>
      match state.calls[number]? with
      | some call =>
          if call.phase = .checked then
            let (taken, adapter) := getAdapterForConnection server state call
            { taken with calls := state.calls.set number { call with phase := .holding adapter } }
          else state
      | none => state
  | .operate number operation clients =>
      match state.calls[number]? with
      | some call =>
          match call.phase with
          | .holding held =>
              match state.adapters[held]? with
              | some adapter =>
                  let (sessions, changed) := adapter.perform server state.db operation clients
                  { state with
                    db := changed
                    adapters := state.adapters.modify held fun adapter => { adapter with sessions := sessions }
                    calls := state.calls.set number { call with phase := .answered } }
              | none => state
          | _ => state
      | none => state
  | .evict connection =>
      match state.cache connection with
      | some held =>
          { state with
            adapters := state.adapters.modify held fun adapter => { adapter with closed := true }
            cache := Function.update state.cache connection none }
      | none => state
  | .renew held client =>
      { state with
        adapters := state.adapters.modify held fun adapter =>
          { adapter with sessions := Function.update adapter.sessions client server.fresh } }
  | .world db => { state with db := db }

structure State.Fresh (state : State Database Session) : Prop where
  adapters : state.adapters = []
  cache : ∀ connection, state.cache connection = none
  calls : state.calls = []

/-- The statements that set a session up, besides SET TRANSACTION. -/
def Setting (statement : Statement Value) : Prop :=
  statement = plain pidText ∨ statement = plain timeoutText ∨ ∃ schema, statement = plain (searchPathText schema)

structure Server.Lawful : Prop where
  set_outside : ∀ session db, server.inTransaction session = false →
    server.run session db (plain readOnlyText) = (session, db, true)
  set_inside : ∀ session db, server.inTransaction session = true →
    (server.run session db (plain readOnlyText)).2.1 = db ∧
      ((server.run session db (plain readOnlyText)).2.2 = true →
        server.inReadOnly (server.run session db (plain readOnlyText)).1 = true)
  setting : ∀ session db statement, Setting statement →
    (server.run session db statement).2.1 = db ∧
      server.inTransaction (server.run session db statement).1 = server.inTransaction session ∧
      server.inReadOnly (server.run session db statement).1 = server.inReadOnly session

/-- A text that changes no data, whatever the session. -/
def Server.OnlyReads (text : Text) : Prop :=
  ∀ session db, (server.run session db (plain text)).2.1 = db

/-- A text that changes no data where a transaction is read only: it does not leave it to write. -/
def Server.Confined (text : Text) : Prop :=
  ∀ session db, server.inReadOnly session = true → (server.run session db (plain text)).2.1 = db

end

end SpaceApp.Databases
