import RowGate.Engine.Request
import RowGate.Backend
import RowGate.Catalog.Entity
import RowGate.Connection.Config
import RowGate.Connection.Stale
import RowGate.Cache.Key
import RowGate.Cache.Lru
import RowGate.Cache.Inflight
import RowGate.Executor.ResultSet
import RowGate.Query.Builder
import RowGate.Number.Parse
import RowGate.Text.Quoted
import RowGate.Text.Search
/-!
# Serving reads

List and single-record reads: resolve the entity, connection, columns, access and scope, plan,
and run the plan on one executor per request, sharing executions and caching pages.
-/

namespace RowGate.Engine

open Query RowGate.Filter Policy Executor Catalog Cache

/-- Settings of the engine. -/
structure Options where
  defaultPageSize : Int := defaultPageSize
  /-- Whether list answers go to the response cache without being asked to. -/
  cacheListResponses : Bool := false
  failMode : FailMode := .openMode
  /-- The most keys that shared executions are kept under; zero or less means 10000. -/
  dedupMaxEntries : Int := 0
deriving Repr, Inhabited

/-- What a shared execution produces. -/
inductive Outcome where
  | page (e : Envelope)
  | records (rows : List Entries)
deriving Repr, Inhabited

/-- The engine: its settings, its response cache if it has one, and the executions in
flight. -/
structure Handler where
  options : Options
  responses : Option (Lru Envelope) := none
  inflight : Inflight Outcome
deriving Repr

/-- The engine with the given settings; a page size of zero or less means the default one. -/
def Handler.new (o : Options) (responses : Option (Lru Envelope)) (keeps : Bool) : Handler :=
  { options := { o with defaultPageSize := if o.defaultPageSize ≤ 0 then defaultPageSize else o.defaultPageSize }
    responses, inflight := Inflight.empty keeps o.dedupMaxEntries }

/-- A read with everything resolved. -/
structure Prepared (ε : Type) where
  request : Request
  entity : Entity
  connection : Connection.Config
  builder : Builder
  executor : ε
  columns : List Column
  access : FieldAccess
  scope : Filter.Filter

namespace Prepared

def table (p : Prepared ε) : TableRef := ⟨p.entity.schemaName, p.entity.name⟩

def filterKey (f : Filter.Filter) : String :=
  match f with
  | none => ""
  | some n => (n.toJson).toOption.getD ""

/-- The fingerprint of a read with the given parameters; the resolved access and scope join
them. -/
def fingerprint (p : Prepared ε) (op : String) (params : List (String × String)) : String :=
  let params := params ++ [("allowed", ",".intercalate p.access.allowed),
    ("masked", ",".intercalate p.access.masked), ("scope", filterKey p.scope)]
  Key.fingerprint { op, service := p.request.serviceId, entity := p.entity.name
                    env := p.request.environment, role := p.request.caller.roleId
                    org := p.request.caller.organizationId, user := p.request.caller.userId
                    params := some params }

end Prepared

def notExposed (ref : String) : Fault :=
  .new .entityNotFound ("entity " ++ Text.quote ref ++ " is not exposed")

section

variable {m : Type → Type} [Monad m] {ε : Type} (b : Backend m ε)

/-- Runs `act` on an executor of a connection: the one given, else a newly acquired one. A
stale failure is retried once on a refreshed executor; the refresh's own failure joins the
first. Gives the result and the executor to use next. -/
def execute (conn : Connection.Config) (serviceId entityName : String) (given : Option ε)
    (act : ε → ExceptT Fault m α) : ExceptT Fault m (α × ε) := do
  let ex ← match given with
    | some x => pure x
    | none =>
      wrapFailure .queryExecution ("failed to connect to service " ++ Text.quote serviceId) (b.acquire conn)
  let first ← caught (act ex)
  let (result, ex) ← match first with
    | .ok a => pure ((Except.ok a : Except Fault α), ex)
    | .error err =>
      if err.isStale then
        match ← caught (b.refresh conn ex) with
        | .ok fresh => pure ((← caught (act fresh)), fresh)
        | .error rerr => pure (.error (.joined [err, rerr]), ex)
      else pure (.error err, ex)
  match result with
  | .ok a => pure (a, ex)
  | .error err =>
    if err.holds .deadlineExceeded then
      throw (.wrap .timeout err ("query on " ++ Text.quote entityName ++ " timed out"))
    else throw (.wrap .queryExecution err ("query on " ++ Text.quote entityName ++ " failed"))

/-- Resolves a read of the entity that `ref` names. -/
def prepare (o : Options) (rq : Request) (ref : String) : ExceptT Fault m (Prepared ε) := do
  let entity ← match ← caught (b.findEntity rq.serviceId ref) with
    | .ok (some x) => pure x
    | .ok none => throw (notExposed ref)
    | .error err => throw (.wrapped ("failed to look up entity " ++ Text.quote ref) err)
  if !entity.allowRead then throw (notExposed ref)
  let conn := (← b.resolve rq.serviceId rq.environment).connection
  let kind ← Kind.parse conn.type
  let table : TableRef := ⟨entity.schemaName, entity.name⟩
  let (columns, ex) ← execute b conn rq.serviceId entity.name none (b.columns · table)
  if columns.isEmpty then
    throw (.new .entityNotFound ("entity " ++ Text.quote ref ++ " no longer exists in the database"))
  let names := columns.map (·.name)
  let role := rq.caller.roleId
  let fps ← explainFailure ("failed to load field policies for entity " ++ toString entity.id)
    (b.fieldPolicies entity.id role)
  let access := resolveFields fps role names
  if access.readable.isEmpty then
    throw (.new .entityNotFound ("entity " ++ Text.quote ref ++ " has no readable fields"))
  let rps ← explainFailure ("failed to load row policies for entity " ++ toString entity.id)
    (b.rowPolicies entity.id role)
  let scope := resolveRows rps role rq.renderContext names entity.primaryKey o.failMode
  pure { request := rq, entity, connection := conn, builder := .ofKind kind, executor := ex
         columns, access, scope }

end

/-- The fields to return and the columns to select for a requested field list. Requested
fields count when allowed, each once; none means every allowed field. Masked fields are
returned but never selected; when nothing remains to select, the first readable column is. -/
def projection (raw : String) (access : FieldAccess) : List String × List String :=
  let requested := (raw.splitOn ",").map Text.trim
  let output := requested.foldl (fun acc f =>
    if f.isEmpty || !access.allowed.contains f || acc.contains f then acc else acc ++ [f]) []
  let output := if output.isEmpty then access.allowed else output
  let selected := output.filter fun f => !access.isMasked f
  (output, if selected.isEmpty then access.readable.take 1 else selected)

/-- A row restricted to the output fields, masked ones as null. -/
def shape (output : List String) (access : FieldAccess) (row : Row) : Entries :=
  Entries.ofList (output.map fun f =>
    if access.isMasked f then (f, .null)
    else (f, ((row.find? (·.1 == f)).map (·.2)).getD .null))

def sortKey (sort : List SortField) : String :=
  ",".intercalate (sort.map fun s => if s.desc then "-" ++ s.field else s.field)

/-- The value of an id in a primary key column: an integer for integer columns, a double for
floating and decimal ones, the text itself otherwise or when it does not read as one. -/
def coerceId (id : String) (col : Column) : Value :=
  let t := col.dataType.lowerCase
  let has := fun (part : String) => Text.occurs part t
  if has "int" then
    match Number.parseInt64 id with
    | .ok n => .int .int64 n
    | .error _ => .str id
  else if has "double" || has "float" || has "decimal" || has "numeric" || has "real" then
    match Number.Binary64.parse id with
    | .ok x => .float x
    | .error _ => .str id
  else .str id

/-- What a list read asks of the database: the fields returned and the columns selected, the
caller's filter and sort, the page, and the query with the plan built from it. -/
structure ListPlan where
  output : List String
  selected : List String
  userFilter : Filter.Filter
  sort : List SortField
  page : Page
  query : ListQuery
  plan : Plan

/-- What a single-record read asks of the database. -/
structure ByIdPlan where
  output : List String
  selected : List String
  query : ByIdQuery
  plan : Plan

namespace Prepared

/-- Plans a list read: the caller's filter and sort count only on readable columns, the
scope joins the filter, and the page is clamped. -/
def planList (o : Options) (req : Prepared ε) (p : ListParams) : Except Fault ListPlan := do
  let readable := req.access.readable
  let userFilter ← Filter.parse p.filter readable
  let (output, selected) := projection p.fields req.access
  let sortRaw := if (Text.trim p.sort).isEmpty then req.entity.defaultSort else p.sort
  let sort := parseSort sortRaw readable
  let page := Page.of p.page (if p.pageSize == 0 then o.defaultPageSize else p.pageSize)
  let q : ListQuery :=
    { table := req.table, fields := selected, filter := Node.both req.scope userFilter, sort
      page := page.page, pageSize := page.size }
  let plan ← req.builder.buildList q
  pure { output, selected, userFilter, sort, page, query := q, plan }

/-- Plans a single-record read: the primary key must still exist, and the scope joins the key
condition. -/
def planById (req : Prepared ε) (ref id : String) (p : ListParams) : Except Fault ByIdPlan := do
  let pk := req.entity.primaryKey
  let pkCol ← match req.columns.find? (·.name == pk) with
    | some c => pure c
    | none => throw (.new .entityNotFound ("primary key " ++ Text.quote pk ++ " of entity " ++
        Text.quote ref ++ " no longer exists"))
  let (output, selected) := projection p.fields req.access
  let q : ByIdQuery :=
    { table := req.table, fields := selected, primaryKey := pk, id := coerceId id pkCol
      scope := req.scope }
  let plan ← req.builder.buildById q
  pure { output, selected, query := q, plan }

end Prepared

section

variable {m : Type → Type} [Monad m] {ε : Type} (b : Backend m ε)

/-- Runs an execution under the engine's table of executions in flight. -/
def Handler.share (e : Handler) (key : String) (run : ExceptT Fault m Outcome) :
    ExceptT Fault m (Outcome × Handler) := do
  match e.inflight.arrive key with
  | (.joined f, g) =>
    match f.result with
    | some r => do let x ← liftExcept r; pure (x, { e with inflight := g })
    | none => do let x ← run; pure (x, { e with inflight := g })
  | (.leader s, g) =>
    let r ← caught run
    let e := { e with inflight := g.finish key s r }
    match r with
    | .ok x => pure (x, e)
    | .error err => throw err
  | (.alone, g) => do let x ← run; pure (x, { e with inflight := g })
where
  liftExcept {α : Type} : Except Fault α → ExceptT Fault m α
    | .ok x => pure x
    | .error err => throw err

/-- One page of an entity's rows. -/
def Handler.list (e : Handler) (rq : Request) (ref : String) (p : ListParams) :
    ExceptT Fault m (Envelope × Handler) := do
  let req ← prepare b e.options rq ref
  let lp ← req.planList e.options p
  let key := req.fingerprint "list" [("fields", ",".intercalate lp.output),
    ("sort", sortKey lp.sort), ("filter", Prepared.filterKey lp.userFilter),
    ("page", toString lp.page.page), ("pageSize", toString lp.page.size)]
  let useCache := e.responses.isSome && !p.bypass && (p.cache || e.options.cacheListResponses)
  let cached := if useCache then e.responses.map (·.get key) else none
  match cached with
  | some (some hit, c) => pure (hit, { e with responses := some c })
  | _ =>
    let run : ExceptT Fault m Outcome := do
      let ((rows, total), _) ← execute b req.connection rq.serviceId req.entity.name (some req.executor)
        fun ex => do
          let rows ← caught (b.query ex lp.plan)
          let total ← caught (b.count ex lp.plan)
          match rows, total with
          | .ok r, .ok t => pure (r, t)
          | .error err, _ => throw err
          | _, .error err => throw err
      pure (.page { data := rows.map (shape lp.output req.access), page := lp.page.page
                    pageSize := lp.page.size, total
                    hasNext := hasNext lp.page.page lp.page.size rows.length total })
    let (out, e) ← e.share key run
    let env := match out with
      | .page x => x
      | .records _ => default
    let e := if useCache then { e with responses := e.responses.map (·.set key env) } else e
    pure (env, e)

/-- The record of an entity with the given id, within the caller's scope. -/
def Handler.byId (e : Handler) (rq : Request) (ref id : String) (p : ListParams) :
    ExceptT Fault m (Entries × Handler) := do
  let req ← prepare b e.options rq ref
  let bp ← req.planById ref id p
  let key := req.fingerprint "byid" [("id", id), ("fields", ",".intercalate bp.output)]
  let run : ExceptT Fault m Outcome := do
    let (rows, _) ← execute b req.connection rq.serviceId req.entity.name (some req.executor)
      (b.query · bp.plan)
    pure (.records (rows.map (shape bp.output req.access)))
  let (out, e) ← e.share key run
  match out with
  | .records (row :: _) => pure (row, e)
  | _ => throw (.new .recordNotFound ("record " ++ Text.quote id ++ " not found in " ++ Text.quote ref))

/-- The live columns of an entity that the caller may read. -/
def Handler.columns (e : Handler) (rq : Request) (ref : String) : ExceptT Fault m (List String) := do
  let req ← prepare b e.options rq ref
  pure req.access.readable

end

end RowGate.Engine
