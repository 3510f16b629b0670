import RowGate.Executor.Live
import RowGate.Catalog.Stored
import RowGate.Realtime.Service
import RowGate.App.Config
import RowGate.Http.Limiter
import RowGate.Connection.Pools
/-!
# The running application

The application's state: the relational server with the catalog database, the pools, the engine
and its caches, the subscriptions and their streams, the rate limits and a clock.
-/

namespace RowGate.App

open Executor Catalog Connection Engine Query

def startMillis : Int := 1700000000000

def serverPort : Nat := 40001

def roundTrip : Time.Duration := .ofMillis 1

/-- One event of a stream: its name and its data as JSON text. -/
structure Frame where
  event : String
  data : String
deriving Repr, Inhabited

/-- An event stream opened by a subscription request. -/
structure Stream where
  subscription : String
  client : String
  /-- Whether its handler has returned. -/
  ended : Bool := false
  /-- Events written to it and not yet read. -/
  unread : List Frame := []
deriving Repr, Inhabited

/-- The application's state. -/
structure World where
  settings : Settings
  network : Network
  catalogName : String := "catalog"
  catalogOpen : Bool := true
  pools : Pools Live := {}
  engine : Handler
  realtime : Realtime.Service
  limiter : Http.Limiter
  /-- Milliseconds since the application started. -/
  clock : Nat := 0
  streams : List Stream := []

abbrev Run := ExceptT Fault (StateM World)

namespace World

def now (w : World) : Instant := Instant.ofMillis (startMillis + w.clock)

/-- The catalog, while the application runs. -/
def catalog (w : World) : Except Fault Stored :=
  match w.network.relational with
  | some srv => if w.catalogOpen then .ok ⟨srv, w.catalogName⟩ else .error Live.closedFault
  | none => .error Live.closedFault

def withServer (w : World) (srv : Relational.Server) : World :=
  { w with network := { w.network with relational := some srv } }

end World

/-- Fails with a failure, or gives a value. -/
def liftResult (r : Except Fault α) : Run α :=
  match r with
  | .ok a => pure a
  | .error err => throw err

def readCatalog (f : Stored → Except Fault α) : Run α := do
  liftResult (f (← liftResult (← get).catalog))

def writeCatalog (f : Stored → Except Fault (α × Stored)) : Run α := do
  let (a, c) ← liftResult (f (← liftResult (← get).catalog))
  modify (·.withServer c.server)
  pure a

/-- The service with its connection in an environment. -/
def resolveService (serviceId environment : String) : Run Service := do
  let env := Text.trim environment
  let env := if env.isEmpty then "production" else env
  match ← caught (readCatalog (·.connection? serviceId env)) with
  | .ok (some c) =>
    pure { id := c.serviceId, organizationId := c.organizationId, connectionId := c.connectionId
           connection := c.config }
  | .ok none => throw (.new .serviceNotFound ("service " ++ Text.quote serviceId ++ " has no " ++ env ++
      " connection"))
  | .error err => throw (.wrapped ("failed to resolve connection for service " ++ serviceId) err)

def openExecutor (cfg : Config) : Run Live := do
  let _ ← liftResult (Kind.parse cfg.type)
  let w ← get
  let t := w.settings.queryTimeout.nanos
  if 0 < t && t < roundTrip.nanos then
    throw (.wrapped "failed to ping database" (.signal .deadlineExceeded))
  let (r, net) := w.network.open cfg
  set { w with network := net }
  liftResult r

def acquireExecutor (cfg : Config) : Run Live := do
  let (r, pools) ← ExceptT.lift ((← get).pools.get openExecutor (fun _ => pure ()) (.signal .canceled) cfg)
  modify fun w => { w with pools }
  liftResult r

def onExecutor (f : Network → Except Fault α) : Run α := do
  liftResult (f (← get).network)

/-- The application's catalog, registry, pools and databases. -/
def backend : Backend (StateM World) Live where
  findEntity svc ref := readCatalog (·.entityByRef? svc ref)
  getEntity svc id := readCatalog (·.entity? svc id)
  listEntities svc := readCatalog (·.entitiesOf svc)
  entityExists svc name aliasName := readCatalog (·.exposes svc name aliasName)
  createEntity e := do
    let now := (← get).now
    writeCatalog (·.createEntity now e)
  revokeEntity id := writeCatalog fun c => do pure ((), ← c.revokeEntity id)
  fieldPolicies entity role := readCatalog (·.fieldPoliciesFor entity role)
  rowPolicies entity role := readCatalog (·.rowPoliciesFor entity role)
  listFieldPolicies entity := readCatalog (·.fieldPoliciesOf entity)
  listRowPolicies entity := readCatalog (·.rowPoliciesOf entity)
  upsertFieldPolicy p := do
    let now := (← get).now
    writeCatalog (·.upsertFieldPolicy now p)
  upsertRowPolicy p := do
    let now := (← get).now
    writeCatalog (·.upsertRowPolicy now p)
  resolve := resolveService
  acquire := acquireExecutor
  refresh cfg stale := do
    let (_, pools) := (← get).pools.discard cfg.fingerprint stale
    modify fun w => { w with pools }
    acquireExecutor cfg
  tables ex := onExecutor ex.tables
  columns ex t := onExecutor (ex.columns · t)
  query ex p := onExecutor (ex.query · p)
  count ex p := onExecutor (ex.count · p)
  invalidate := modify fun w => { w with engine := { w.engine with responses := w.engine.responses.map (·.purge) } }
  openSession cfg := do
    let t ← liftResult cfg.postgresTarget
    throw (t.connectFailure "dial error" t.dialFailure)
  execute _ _ := pure ()
  closeSession _ := pure ()

/-- Runs statements in turn on a database of the server and stops at the first failure, which
it gives; the statements before it keep their effect. -/
def runStatements (srv : Relational.Server) (database : String) (statements : List String) :
    Relational.Server × Option Fault :=
  statements.foldl (fun (srv, failure) st =>
    match failure with
    | some _ => (srv, failure)
    | none =>
      match srv.run { database := some database } st with
      | .ok (_, srv) => (srv, none)
      | .error e => (srv, some (.plain e.text))) (srv, none)

namespace World

/-- The application started with its settings over a relational server: its catalog database
is created and given its tables, the services' connections are stored in it, and then the
given statements run on it. -/
def start (settings : Settings) (server : Relational.Server) (services : List ServiceConnection)
    (catalogStatements : List String) : World :=
  let catalog := (Stored.mk (server.addDatabase "catalog") "catalog").migrate
  let catalog := services.foldl (fun c s => (c.addConnection s).toOption.getD c) catalog
  let (srv, _) := runStatements catalog.server "catalog" catalogStatements
  let ttl := settings.cacheTtl.nanos
  let responses := if 0 < ttl && ttl < (Time.Duration.ofMillis 100).nanos then none
    else some (Cache.Lru.empty settings.cacheMaxEntries)
  { settings
    network := { relational := some srv, relationalPort := serverPort }
    engine := Handler.new
      { defaultPageSize := settings.defaultPageSize, cacheListResponses := settings.cacheListResponses
        failMode := Policy.FailMode.ofName settings.rowPolicyFailureMode
        dedupMaxEntries := settings.dedupMaxEntries }
      responses (0 < settings.dedupGrace.nanos)
    realtime := .new settings.realtimeBuffer
    limiter := .new settings.rateLimitRpm settings.rateLimitBurst }

/-- Shuts the application down: the subscriptions end, the caches are dropped, the pools close
and then the catalog. -/
def shutdown (w : World) : World :=
  let (_, pools) := w.pools.close
  { w with realtime := w.realtime.shutdown, pools, catalogOpen := false
           engine := { w.engine with inflight := w.engine.inflight.close
                                     responses := w.engine.responses.map (·.purge) } }

end World

end RowGate.App
