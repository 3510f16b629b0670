import RowGate.Relational.Wire
import RowGate.Backend.Memory
import RowGate.Connection.Stale
import RowGate.Connection.Locator
/-!
# Opening executors on reachable servers

An executor is opened by the connection's database kind and pinged before use; only the
notification server and the local relational server answer.
-/

namespace RowGate.Executor

open Query Connection Net

/-- The servers a client can reach. -/
structure Network where
  /-- The relational server on the local host. -/
  relational : Option Relational.Server := none
  /-- The port the relational server listens on. -/
  relationalPort : Nat := 3306
  /-- The notification server. -/
  notifications : Option Backend.Server := none
deriving Inhabited

/-- Where an open executor sends its requests. -/
inductive Link where
  /-- To the relational server, with a current database. -/
  | relational (database : Option String)
  /-- To the notification server. -/
  | notifications
  /-- To a document store that no server selection reaches. -/
  | documents
deriving DecidableEq, Repr, Inhabited

/-- An open executor. -/
structure Live where
  kind : Kind
  link : Link
  closed : Bool := false
  /-- Whether its pooled connection has been checked since it opened. -/
  checked : Bool := false
deriving DecidableEq, Repr, Inhabited

namespace Live

def closedFault : Fault := .plain "sql: database is closed"

def extendedUnsupported : Fault := .plain "ERROR: extended protocol is not supported here (SQLSTATE 0A000)"

def selectionFault : Fault := .plain "server selection error"

def disconnected : Fault := .plain "client is disconnected"

def pingStatement : String := "-- ping"

/-- The connection that carries an executor's statements. -/
def connection (net : Network) (e : Live) : Executor.Connection :=
  if e.closed then fun _ _ => .error closedFault
  else match e.link, net.relational with
    | .relational db, some srv => srv.connection db
    | .notifications, _ => fun _ _ => .error extendedUnsupported
    | _, _ => fun _ _ => .error closedFault

def documentFault (e : Live) : Fault := if e.closed then disconnected else selectionFault

def dialect? (e : Live) : Option SqlDialect :=
  match Builder.ofKind e.kind with
  | .sql d => some d
  | .document => none

/-- The live columns of a table. -/
def columns (net : Network) (e : Live) (t : TableRef) : Except Fault (List Column) :=
  match e.dialect? with
  | some d => SqlExecutor.columns d (e.connection net) t
  | none => .error (.wrapped ("failed to sample " ++ t.name) e.documentFault)

/-- The tables, views and collections. -/
def tables (net : Network) (e : Live) : Except Fault (List Table) :=
  match e.dialect? with
  | some d => SqlExecutor.tables d (e.connection net)
  | none => .error (.wrapped "failed to list collections" e.documentFault)

/-- The rows a plan selects. -/
def query (net : Network) (e : Live) (p : Plan) : Except Fault (List Row) :=
  match e.dialect?, p.find with
  | some _, _ => SqlExecutor.query (e.connection net) p
  | none, none => .error (.plain "plan has no document query")
  | none, some _ => .error e.documentFault

/-- The number of rows a plan's filter matches. -/
def count (net : Network) (e : Live) (p : Plan) : Except Fault Int :=
  match e.dialect?, p.find with
  | some _, _ => SqlExecutor.count (e.connection net) p
  | none, none => .error (.plain "plan has no document query")
  | none, some _ => .error e.documentFault

def reuse (net : Network) (e : Live) : Network × Live :=
  if e.closed || e.checked then (net, e)
  else match e.link, net.notifications with
    | .notifications, some srv =>
      ({ net with notifications := some (srv.receive 0 pingStatement).2 }, { e with checked := true })
    | _, _ => (net, e)

end Live

def knownAuthMechanism (m : String) : Bool :=
  ["SCRAM-SHA-1", "SCRAM-SHA-256", "MONGODB-CR", "PLAIN", "GSSAPI", "MONGODB-X509", "MONGODB-AWS",
    "MONGODB-OIDC"].contains m.upperCase

def isLocalHost (host : String) : Bool := host == "localhost" || host == "127.0.0.1" || host == "::1"

namespace Network

def openPostgres (net : Network) (cfg : Config) : Except Fault Live × Network :=
  match cfg.postgresTarget with
  | .error f => (.error (.wrapped "invalid postgres config" f), net)
  | .ok t =>
    let failed := fun (why : Fault) => Except.error (Fault.wrapped "failed to ping database" why)
    match net.notifications with
    | some srv =>
      if srv.host == t.host && srv.port == t.port && srv.reachable then
        if srv.acceptLimit.any (· ≤ srv.accepted) then
          (failed (t.connectFailure "server error" Backend.Server.tooManyClients), net)
        else
          let (fault, srv) := { srv with accepted := srv.accepted + 1 }.receive 0 Live.pingStatement
          let net := { net with notifications := some srv }
          match fault with
          | some _ => (failed (.plain "driver: bad connection"), net)
          | none => (.ok { kind := .postgres, link := .notifications }, net)
      else (failed (t.connectFailure "dial error" t.dialFailure), net)
    | none => (failed (t.connectFailure "dial error" t.dialFailure), net)

def openMysql (net : Network) (cfg : Config) : Except Fault Live :=
  let failed := fun (why : Fault) => Except.error (Fault.wrapped "failed to ping database" why)
  let address := cfg.hostPort 3306
  match net.relational with
  | some srv =>
    if isLocalHost cfg.host && cfg.portOr 3306 == net.relationalPort then
      if cfg.tls then failed (.plain "TLS requested but server does not support TLS")
      else
        let database := if cfg.database.isEmpty then none else some cfg.database
        let set := "SET " ++ ",".intercalate (cfg.options.map fun (k, v) => k ++ "=" ++ v)
        match if cfg.options.isEmpty then .ok () else (srv.run { database } set).map fun _ => () with
        | .error e => failed (.plain e.text)
        | .ok () => .ok { kind := .mysql, link := .relational database }
    else failed (.plain (unreachable address))
  | none => failed (.plain (unreachable address))

def «open» (net : Network) (cfg : Config) : Except Fault Live × Network :=
  match Kind.parse cfg.type with
  | .error f => (.error f, net)
  | .ok .postgres => net.openPostgres cfg
  | .ok .mysql => (net.openMysql cfg, net)
  | .ok .mssql =>
    let address := cfg.hostPort 1433
    (.error (.wrapped "failed to ping database"
      (.plain ("unable to open tcp connection with host '" ++ address ++ "': " ++ unreachable address))), net)
  | .ok .mongodb =>
    let mechanisms := cfg.options.filter fun (k, _) => k.lowerCase == "authmechanism"
    if mechanisms.any fun (_, m) => !knownAuthMechanism m then
      (.error (.wrapped "failed to connect to mongodb" (.plain "error parsing uri: invalid auth mechanism")), net)
    else (.error (.wrapped "failed to ping mongodb" Live.selectionFault), net)

end Network

/-- A request to an open executor. A query or count carries its plan as a function of the
executor's kind, since the kind decides the statement. -/
inductive Request where
  | columns (t : TableRef)
  | tables
  | query (plan : Kind → Except Fault Plan)
  | count (plan : Kind → Except Fault Plan)
  /-- Whether a probe query fails, and whether its failure marks a stale connection. -/
  | stale
  | close

/-- What an executor answers a request with. -/
inductive Reply where
  | columns (cs : List Column)
  | tables (ts : List Table)
  | rows (rs : List Row)
  | count (n : Int)
  | stale (failed isStale : Bool)
  | closed

def probePlan : Plan := { sql := "SELECT 1", countSql := "SELECT 1", page := 1, pageSize := 1 }

namespace Live

/-- Answers one request, taking the connection from the pool first. -/
def serve (net : Network) (e : Live) : Request → Except Fault Reply × Network × Live
  | .close => (.ok .closed, net, { e with closed := true })
  | r =>
    let (net, e) := e.reuse net
    let reply : Except Fault Reply := match r with
      | .columns t => (e.columns net t).map .columns
      | .tables => (e.tables net).map .tables
      | .query plan => do pure (.rows (← e.query net (← plan e.kind)))
      | .count plan => do pure (.count (← e.count net (← plan e.kind)))
      | .stale => match e.query net probePlan with
        | .ok _ => .ok (.stale false false)
        | .error f => .ok (.stale true f.isStale)
      | .close => .ok .closed
    (reply, net, e)

end Live

namespace Network

/-- Opens an executor for a connection, pinged or, for a document store, taken unpinged, and
answers each request in turn: the kind and the replies, or why it did not open, with the
network after. -/
def session (net : Network) (cfg : Config) (unpinged : Bool) (requests : List Request) :
    Except Fault (Kind × List (Except Fault Reply)) × Network :=
  let opened := if unpinged then (.ok { kind := .mongodb, link := .documents }, net) else net.open cfg
  match opened with
  | (.error f, net) => (.error f, net)
  | (.ok e, net) =>
    let (replies, net, _) := requests.foldl (fun (acc : List (Except Fault Reply) × Network × Live) r =>
      let (replies, net, e) := acc
      let (reply, net, e) := e.serve net r
      (replies ++ [reply], net, e)) ([], net, e)
    (.ok (e.kind, replies), net)

end Network

end RowGate.Executor
