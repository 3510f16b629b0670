import RowGate.Value.Basic
/-!
# Exposed entities

An exposed entity is a table, view or collection of a service that an administrator opted into
serving. Within a service its name and its path alias are each unique; a request names an
entity by either, and the path alias is looked for first.
-/

namespace RowGate.Catalog

/-- An exposed table, view or collection. -/
structure Entity where
  id : Nat
  organizationId : String := ""
  serviceId : String
  connectionId : String := ""
  databaseName : String := ""
  /-- The schema, absent for databases without schemas. -/
  schema : Option String := none
  name : String
  /-- `TABLE`, `VIEW` or `COLLECTION`. -/
  kind : String := ""
  primaryKey : String := ""
  /-- A sort in the grammar of the sort parameter, used when a request gives none. -/
  defaultSort : String := ""
  pathAlias : String := ""
  allowRead : Bool := false
  allowCreate : Bool := false
  allowUpdate : Bool := false
  allowDelete : Bool := false
  createdAt : Instant := Instant.zero
  updatedAt : Instant := Instant.zero
deriving DecidableEq, Repr, Inhabited

namespace Entity

def schemaName (e : Entity) : String := e.schema.getD ""

/-- The JSON form of an entity; a default sort is left out when empty, a schema when absent. -/
def toValue (e : Entity) : Value :=
  .ofPairs ([("id", .int64 e.id), ("organizationId", .str e.organizationId),
    ("serviceId", .str e.serviceId), ("connectionId", .str e.connectionId),
    ("databaseName", .str e.databaseName), ("name", .str e.name), ("kind", .str e.kind),
    ("primaryKey", .str e.primaryKey), ("pathAlias", .str e.pathAlias), ("allowRead", .bool e.allowRead),
    ("allowCreate", .bool e.allowCreate), ("allowUpdate", .bool e.allowUpdate),
    ("allowDelete", .bool e.allowDelete), ("createdAt", .time e.createdAt),
    ("updatedAt", .time e.updatedAt)] ++
    (match e.schema with
      | some s => [("schema", .str s)]
      | none => []) ++
    (if e.defaultSort.isEmpty then [] else [("defaultSort", .str e.defaultSort)]))

/-- The JSON form of an entity in a listing; an empty schema is left out. -/
def summary (e : Entity) : Value :=
  .ofPairs ([("id", .int64 e.id), ("name", .str e.name), ("kind", .str e.kind),
    ("pathAlias", .str e.pathAlias), ("primaryKey", .str e.primaryKey), ("allowRead", .bool e.allowRead),
    ("allowCreate", .bool e.allowCreate), ("allowUpdate", .bool e.allowUpdate),
    ("allowDelete", .bool e.allowDelete)] ++
    (if e.schemaName.isEmpty then [] else [("schema", .str e.schemaName)]))

end Entity

/-- The entity of a service that a reference names: by path alias first, then by name. -/
def findByRef (entities : List Entity) (serviceId ref : String) : Option Entity :=
  let own := entities.filter (·.serviceId == serviceId)
  (own.find? (·.pathAlias == ref)).orElse fun _ => own.find? (·.name == ref)

end RowGate.Catalog
