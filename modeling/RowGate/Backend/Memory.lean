import RowGate.Backend
import RowGate.Catalog.Store
import RowGate.Text.Quoted
import RowGate.Connection.Postgres
import RowGate.Text.Search
/-!
# An in-memory backend

A catalog and one database in memory that record every call and fail where a script says, and
optionally a notification server at one host and port.
-/

namespace RowGate.Backend

open Query Policy Executor Catalog

/-- The calls that can be made to fail. -/
inductive Stage where
  | acquire
  | refresh
  | tables
  | columns
  | query
  | count
deriving DecidableEq, Repr, Inhabited

/-- A scripted failure: the calls of a stage fail with `fault`, the first `times` of them or,
when `times` is absent, all. -/
structure Script where
  stage : Stage
  fault : Fault
  times : Option Nat := none
deriving Repr, Inhabited

/-- A database server in memory for statements and notifications. -/
structure Server where
  host : String
  port : Nat
  /-- Whether the network lets a client reach it. -/
  reachable : Bool := true
  /-- A statement containing one of these fails. -/
  failOn : List String := []
  /-- The most connections it accepts, if it has a limit. -/
  acceptLimit : Option Nat := none
  accepted : Nat := 0
  /-- The statements received, in order. -/
  log : List String := []
  /-- The sessions that listen for notifications. -/
  listening : List Nat := []
deriving Repr, Inhabited

namespace Server

def denied : Fault := .plain "ERROR: permission denied (SQLSTATE 42501)"

def tooManyClients : String := "FATAL: sorry, too many clients already (SQLSTATE 53300)"

/-- Receives a statement: whether it fails, and the server after it. -/
def receive (srv : Server) (session : Nat) (stmt : String) : Option Fault × Server :=
  let srv := { srv with log := srv.log ++ [stmt] }
  if srv.failOn.any fun mark => Text.occurs mark stmt then (some denied, srv)
  else if stmt.startsWith "LISTEN " then (none, { srv with listening := srv.listening ++ [session] })
  else (none, srv)

end Server

/-- A catalog and a database in memory, with a record of the calls made to them. -/
structure Memory where
  store : Store := {}
  services : List Service := []
  tables : List Table := []
  /-- The columns of tables by name; `*` stands for every other table. -/
  tableColumns : List (String × List Column) := []
  rows : List Row := []
  total : Int := 0
  scripts : List Script := []
  /-- The plan of every query, in order. -/
  plans : List Plan := []
  /-- The plan of every count, in order. -/
  counted : List Plan := []
  /-- The table of every column listing, in order. -/
  columnCalls : List TableRef := []
  queries : Nat := 0
  counts : Nat := 0
  refreshes : Nat := 0
  /-- The number of cached responses. -/
  cached : Nat := 0
  server : Option Server := none
  /-- The number of sessions opened. -/
  sessions : Nat := 0
deriving Inhabited

namespace Memory

/-- The columns of a table. -/
def columnsOf (mem : Memory) (name : String) : List Column :=
  match mem.tableColumns.find? (·.1 == name) with
  | some (_, cs) => cs
  | none => ((mem.tableColumns.find? (·.1 == "*")).map (·.2)).getD []

/-- Takes one failure of a stage from the scripts, if one is due. -/
def takeFault (stage : Stage) : StateM Memory (Option Fault) := do
  let mem ← get
  match mem.scripts.find? (·.stage == stage) with
  | none => pure none
  | some s =>
    match s.times with
    | none => pure (some s.fault)
    | some 0 => pure none
    | some (n + 1) =>
      set { mem with scripts := mem.scripts.map fun (x : Script) =>
        if x.stage == stage then { x with times := some n } else x }
      pure (some s.fault)

/-- Answers `v` unless a failure of the stage is due. -/
def serve (stage : Stage) (v : α) : ExceptT Fault (StateM Memory) α := do
  match ← (takeFault stage : StateM Memory (Option Fault)) with
  | some f => throw f
  | none => pure v

/-- Sets the scripts of the next calls and clears the record of calls. -/
def restart (mem : Memory) (scripts : List Script) : Memory :=
  { mem with scripts, plans := [], counted := [], columnCalls := [], queries := 0, counts := 0
             refreshes := 0 }

def withStore (f : Store → Store × α) : ExceptT Fault (StateM Memory) α := do
  let mem ← get
  let (s, a) := f mem.store
  set { mem with store := s }
  pure a

/-- The backend over the memory; an executor carries nothing. -/
def backend : Backend (StateM Memory) Unit where
  findEntity svc ref := do pure (findByRef (← get).store.entities svc ref)
  getEntity svc id := do pure ((← get).store.entity? svc id)
  listEntities svc := do pure ((← get).store.entitiesOf svc)
  entityExists svc name aliasName := do pure ((← get).store.exposes svc name aliasName)
  createEntity e := withStore (·.create e)
  revokeEntity id := withStore fun s => (s.revoke id, ())
  fieldPolicies entity role := do
    pure (forRole FieldPolicy.entityId FieldPolicy.roleId FieldPolicy.id (← get).store.fieldPolicies
      entity role)
  rowPolicies entity role := do
    pure (forRole RowPolicy.entityId RowPolicy.roleId RowPolicy.id (← get).store.rowPolicies entity role)
  listFieldPolicies entity := do pure ((← get).store.fieldPoliciesOf entity)
  listRowPolicies entity := do pure ((← get).store.rowPoliciesOf entity)
  upsertFieldPolicy p := withStore (·.upsertField p)
  upsertRowPolicy p := withStore (·.upsertRow p)
  resolve svc _ := do
    match (← get).services.find? (·.id == svc) with
    | some s => pure s
    | none => throw (.new .serviceNotFound ("service " ++ Text.quote svc ++ " not found"))
  acquire _ := serve .acquire ()
  refresh _ _ := do
    modify fun mem => { mem with refreshes := mem.refreshes + 1 }
    serve .refresh ()
  tables _ := do serve .tables (← get).tables
  columns _ t := do
    modify fun mem => { mem with columnCalls := mem.columnCalls ++ [t] }
    serve .columns ((← get).columnsOf t.name)
  query _ plan := do
    modify fun mem => { mem with plans := mem.plans ++ [plan], queries := mem.queries + 1 }
    serve .query (← get).rows
  count _ plan := do
    modify fun mem => { mem with counted := mem.counted ++ [plan], counts := mem.counts + 1 }
    serve .count (← get).total
  invalidate := modify fun mem => { mem with cached := 0 }
  openSession cfg := do
    let t ← cfg.postgresTarget
    let mem ← get
    match mem.server with
    | some srv =>
      if srv.host == t.host && srv.port == t.port && srv.reachable then
        if srv.acceptLimit.any (· ≤ srv.accepted) then
          throw (t.connectFailure "server error" Server.tooManyClients)
        else
          set { mem with server := some { srv with accepted := srv.accepted + 1 }, sessions := mem.sessions + 1 }
          pure (mem.sessions + 1)
      else throw (t.connectFailure "dial error" t.dialFailure)
    | none => throw (t.connectFailure "dial error" t.dialFailure)
  execute session stmt := do
    let mem ← get
    match mem.server with
    | some srv =>
      let (fault, srv) := srv.receive session stmt
      set { mem with server := some srv }
      match fault with
      | some f => throw f
      | none => pure ()
    | none => pure ()
  closeSession _ := pure ()

end Memory

end RowGate.Backend
