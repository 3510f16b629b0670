import RowGate.Backend
import RowGate.Catalog.Request
import RowGate.Catalog.Slug
import RowGate.Query.Kind
import RowGate.Text.Quoted
import RowGate.Text.Blank
/-!
# Administering the catalog

Discovering tables, exposing and revoking entities, and attaching field and row policies; every
change drops the cached responses.
-/

namespace RowGate.Catalog

open Policy Executor Query

/-- A table found in a database, as discovery offers it. -/
structure Discovered where
  name : String
  schema : String
  kind : String
  isExposed : Bool
  suggestedAlias : String
deriving DecidableEq, Repr

/-- The JSON form of a discovered table; an empty schema is left out. -/
def Discovered.toValue (d : Discovered) : Value :=
  .ofPairs ([("name", .str d.name), ("kind", .str d.kind), ("isExposed", .bool d.isExposed),
    ("suggestedAlias", .str d.suggestedAlias)] ++
    (if d.schema.isEmpty then [] else [("schema", .str d.schema)]))

def textsValue : Option (List String) → Value
  | some xs => .list (xs.map .str)
  | none => .null

/-- The JSON form of a field policy. -/
def fieldPolicyValue (p : FieldPolicy) : Value :=
  .ofPairs [("id", .int64 p.id), ("entityId", .int64 p.entityId),
    ("roleId", (p.roleId.map Value.str).getD .null), ("maskedFields", textsValue p.masked),
    ("includeFields", textsValue p.included), ("excludeFields", textsValue p.excluded),
    ("createdAt", .time p.createdAt), ("updatedAt", .time p.updatedAt)]

/-- The JSON form of a row policy; an empty description is left out. -/
def rowPolicyValue (p : RowPolicy) : Value :=
  .ofPairs ([("id", .int64 p.id), ("entityId", .int64 p.entityId),
    ("roleId", (p.roleId.map Value.str).getD .null), ("filterTemplate", .str p.template),
    ("createdAt", .time p.createdAt), ("updatedAt", .time p.updatedAt)] ++
    (if p.description.isEmpty then [] else [("description", .str p.description)]))

/-- An entity with every policy attached to it. -/
structure EntityPolicies where
  entity : Entity
  fieldPolicies : List FieldPolicy
  rowPolicies : List RowPolicy
deriving Repr

/-- The JSON form of an entity's policies. A store that reads its rows into a fresh list gives
an empty list of policies as `[]`; one that only collects matches gives `null` when there are
none, which `nullWhenEmpty` selects. -/
def EntityPolicies.toValue (p : EntityPolicies) (nullWhenEmpty : Bool) : Value :=
  let orNull := fun (xs : List Value) => if xs.isEmpty && nullWhenEmpty then Value.null else .list xs
  .ofPairs [("entity", p.entity.summary), ("fieldPolicies", orNull (p.fieldPolicies.map fieldPolicyValue)),
    ("rowPolicies", orNull (p.rowPolicies.map rowPolicyValue))]

/-- A role as stored: trimmed, and absent when blank. -/
def roleOf (role : String) : Option String :=
  let r := Text.trim role
  if r.isEmpty then none else some r

def ExposeRequest.aliasName (r : ExposeRequest) : String :=
  if (slug r.pathAlias).isEmpty then slug r.name else slug r.pathAlias

def alreadyExposed (name aliasName : String) : Fault :=
  .new .conflict ("table " ++ Text.quote name ++ " or alias " ++ Text.quote aliasName ++ " is already exposed")

section

variable {m : Type → Type} [Monad m] {ε : Type} (b : Backend m ε)

/-- The tables of a database that a service offers for exposure: all but those in a system
schema, each marked when the service exposes it, with the slug of its name. -/
def discover (isSystemSchema : String → Bool) (serviceId : String) (conn : Connection.Config) :
    ExceptT Fault m (List Discovered) := do
  let _ ← Kind.parse conn.type
  let ex ← wrapFailure .queryExecution ("failed to connect to service " ++ Text.quote serviceId)
    (b.acquire conn)
  let tables ← wrapFailure .queryExecution ("failed to list tables of service " ++ Text.quote serviceId)
    (b.tables ex)
  let exposed ← explainFailure ("failed to list exposed entities for service " ++ serviceId)
    (b.listEntities serviceId)
  let keys := exposed.map fun e => e.schemaName ++ "." ++ e.name
  pure ((tables.filter fun t => t.schema.isEmpty || !isSystemSchema t.schema).map fun t =>
    { name := t.name, schema := t.schema, kind := t.kind, isExposed := keys.contains (t.schema ++ "." ++ t.name)
      suggestedAlias := slug t.name })

/-- The entity of a service with an id. -/
def entityOf (serviceId : String) (id : Nat) : ExceptT Fault m Entity := do
  match ← explainFailure ("failed to load entity " ++ toString id) (b.getEntity serviceId id) with
  | some e => pure e
  | none => throw (.new .entityNotFound ("entity " ++ toString id ++ " not found"))

/-- The entity an exposure stores, once the request is checked, its alias derived, its name and
alias found unused, and the table and its primary key found in the live database. -/
def exposure (r : ExposeRequest) : ExceptT Fault m Entity := do
  let vs := r.violations
  if !vs.isEmpty then throw (invalid "expose request" vs)
  let aliasName := r.aliasName
  if aliasName.isEmpty then
    throw (.new .validation ("cannot derive a path alias from " ++ Text.quote r.name))
  if ← explainFailure "failed to check existing exposure" (b.entityExists r.serviceId r.name aliasName) then
    throw (alreadyExposed r.name aliasName)
  let svc ← b.resolve r.serviceId r.environment
  let ex ← wrapFailure .queryExecution ("failed to connect to service " ++ Text.quote r.serviceId)
    (b.acquire svc.connection)
  let tables ← wrapFailure .queryExecution "failed to list tables" (b.tables ex)
  let table ← match tables.find? fun t => t.name == r.name && (r.schema.isEmpty || t.schema == r.schema) with
    | some t => pure t
    | none => throw (.new .validation ("table " ++ Text.quote r.name ++ " does not exist"))
  let columns ← wrapFailure .queryExecution ("failed to read columns of " ++ Text.quote r.name)
    (b.columns ex ⟨table.schema, table.name⟩)
  if !(columns.map (·.name)).contains r.primaryKey then
    throw (.new .validation ("primary key " ++ Text.quote r.primaryKey ++ " is not a column of " ++
      Text.quote r.name))
  pure { id := 0, organizationId := if r.organizationId.isEmpty then svc.organizationId else r.organizationId
         serviceId := r.serviceId, connectionId := svc.connectionId, databaseName := svc.connection.database
         schema := if table.schema.isEmpty then none else some table.schema, name := table.name
         kind := table.kind, primaryKey := r.primaryKey, defaultSort := r.defaultSort, pathAlias := aliasName
         allowRead := r.allowRead.getD true, allowCreate := r.allowCreate, allowUpdate := r.allowUpdate
         allowDelete := r.allowDelete }

/-- Exposes a table of a service's database. -/
def expose (r : ExposeRequest) : ExceptT Fault m Entity := do
  let entity ← exposure b r
  let created ← match ← caught (b.createEntity entity) with
    | .ok e => pure e
    | .error err =>
      if err.holds .duplicatedKey then throw (alreadyExposed r.name r.aliasName)
      else throw (.wrapped "failed to create exposed entity" err)
  b.invalidate
  pure created

def listExposed (serviceId : String) : ExceptT Fault m (List Entity) :=
  explainFailure ("failed to list exposed entities for service " ++ serviceId) (b.listEntities serviceId)

/-- Removes an entity and its policies. -/
def revoke (serviceId : String) (id : Nat) : ExceptT Fault m Unit := do
  let e ← entityOf b serviceId id
  explainFailure ("failed to revoke entity " ++ toString id) (b.revokeEntity e.id)
  b.invalidate

/-- Sets the field policy of a role for an entity. -/
def setFieldPolicy (serviceId : String) (entityId : Nat) (r : FieldPolicyRequest) :
    ExceptT Fault m FieldPolicy := do
  let vs := r.violations
  if !vs.isEmpty then throw (invalid "field policy" vs)
  let e ← entityOf b serviceId entityId
  let p ← explainFailure ("failed to store field policy for entity " ++ toString entityId)
    (b.upsertFieldPolicy { id := 0, entityId := e.id, roleId := roleOf r.roleId, masked := r.masked
                           included := r.included, excluded := r.excluded })
  b.invalidate
  pure p

/-- Sets the row policy of a role for an entity, once its template is checked against the
entity's live columns. -/
def setRowPolicy (serviceId : String) (entityId : Nat) (r : RowPolicyRequest) :
    ExceptT Fault m RowPolicy := do
  let vs := r.violations
  if !vs.isEmpty then throw (invalid "row policy" vs)
  let e ← entityOf b serviceId entityId
  let svc ← b.resolve serviceId r.environment
  let ex ← wrapFailure .queryExecution ("failed to connect to service " ++ Text.quote serviceId)
    (b.acquire svc.connection)
  let columns ← wrapFailure .queryExecution ("failed to read columns of " ++ Text.quote e.name)
    (b.columns ex ⟨e.schemaName, e.name⟩)
  let template := Text.trim (r.template.getD "")
  validateTemplate template (columns.map (·.name))
  let p ← explainFailure ("failed to store row policy for entity " ++ toString entityId)
    (b.upsertRowPolicy { id := 0, entityId := e.id, roleId := roleOf r.roleId, template
                         description := r.description })
  b.invalidate
  pure p

/-- An entity with its policies. -/
def policiesOf (serviceId : String) (entityId : Nat) : ExceptT Fault m EntityPolicies := do
  let e ← entityOf b serviceId entityId
  let fields ← explainFailure ("failed to list field policies for entity " ++ toString entityId)
    (b.listFieldPolicies e.id)
  let rows ← explainFailure ("failed to list row policies for entity " ++ toString entityId)
    (b.listRowPolicies e.id)
  pure ⟨e, fields, rows⟩

end

end RowGate.Catalog
