import RowGate.Relational.Database
import RowGate.Catalog.Entity
import RowGate.Policy.Field
import RowGate.Policy.Row
import RowGate.Connection.Config
import RowGate.Json.Writer
import RowGate.Json.Reader
/-!
# A catalog kept in tables

The catalog as four tables of the relational store, every read and write a statement on them,
so changes made behind the catalog's back are seen at once.
-/

namespace RowGate.Catalog

open Relational Policy

/-- A connection of a service in one environment, as the catalog keeps it. -/
structure ServiceConnection where
  id : Nat
  serviceId : String
  environment : String
  organizationId : String := ""
  connectionId : String := ""
  dbType : String := ""
  host : String := ""
  port : Int := 0
  username : String := ""
  password : String := ""
  databaseName : String := ""
  tls : Bool := false
deriving Repr, Inhabited

namespace ServiceConnection

/-- The JSON form of a connection; the password is never shown. -/
def toValue (c : ServiceConnection) : Value :=
  .ofPairs [("id", .int64 c.id), ("serviceId", .str c.serviceId), ("environment", .str c.environment),
    ("organizationId", .str c.organizationId), ("connectionId", .str c.connectionId),
    ("dbType", .str c.dbType), ("host", .str c.host), ("port", .int64 c.port),
    ("username", .str c.username), ("databaseName", .str c.databaseName), ("tls", .bool c.tls)]

/-- The connection settings a client dials with; the type is read without case. -/
def config (c : ServiceConnection) : Connection.Config :=
  { type := c.dbType.lowerCase, host := c.host, port := c.port, user := c.username
    password := c.password, database := c.databaseName, tls := c.tls }

end ServiceConnection

def catalogSchema : List String :=
  ["CREATE TABLE `exposed_entities` (`id` bigint unsigned AUTO_INCREMENT,`organization_id` varchar(64)," ++
    "`service_id` varchar(64),`connection_id` varchar(64),`database_name` varchar(128)," ++
    "`schema_name` varchar(128),`name` varchar(128),`kind` varchar(16),`primary_key` varchar(128)," ++
    "`default_sort` varchar(255),`path_alias` varchar(128),`allow_read` boolean,`allow_create` boolean," ++
    "`allow_update` boolean,`allow_delete` boolean,`created_at` datetime(3) NULL,`updated_at` datetime(3) NULL," ++
    "PRIMARY KEY (`id`),INDEX `idx_exposed_entities_organization_id` (`organization_id`)," ++
    "UNIQUE INDEX `ux_entity_service_name` (`service_id`,`name`)," ++
    "UNIQUE INDEX `ux_entity_service_alias` (`service_id`,`path_alias`))",
   "CREATE TABLE `field_policies` (`id` bigint unsigned AUTO_INCREMENT,`entity_id` bigint unsigned," ++
    "`role_id` varchar(64),`masked_fields` text,`include_fields` text,`exclude_fields` text," ++
    "`created_at` datetime(3) NULL,`updated_at` datetime(3) NULL,PRIMARY KEY (`id`)," ++
    "INDEX `idx_field_policies_entity_id` (`entity_id`))",
   "CREATE TABLE `row_policies` (`id` bigint unsigned AUTO_INCREMENT,`entity_id` bigint unsigned," ++
    "`role_id` varchar(64),`filter_template` text,`description` varchar(255)," ++
    "`created_at` datetime(3) NULL,`updated_at` datetime(3) NULL,PRIMARY KEY (`id`)," ++
    "INDEX `idx_row_policies_entity_id` (`entity_id`))",
   "CREATE TABLE `service_connections` (`id` bigint unsigned AUTO_INCREMENT,`service_id` varchar(64)," ++
    "`environment` varchar(32),`organization_id` varchar(64),`connection_id` varchar(64)," ++
    "`db_type` varchar(16),`host` varchar(255),`port` bigint,`username` varchar(128)," ++
    "`password` varchar(255),`database_name` varchar(128),`tls` boolean,PRIMARY KEY (`id`)," ++
    "UNIQUE INDEX `ux_service_env` (`service_id`,`environment`))"]

abbrev Record := List (String × Datum)

namespace Record

def cell (r : Record) (name : String) : Datum := ((r.find? (·.1 == name)).map (·.2)).getD .null

/-- A text cell; `NULL` reads as empty. -/
def text (r : Record) (name : String) : String :=
  match r.cell name with
  | .null => ""
  | d => d.asText ColumnType.longText

def text? (r : Record) (name : String) : Option String :=
  match r.cell name with
  | .null => none
  | d => some (d.asText ColumnType.longText)

/-- An integer cell; `NULL` reads as zero. -/
def int (r : Record) (name : String) : Int :=
  match r.cell name with
  | .int n => n
  | _ => 0

def flag (r : Record) (name : String) : Bool := r.int name != 0

/-- An instant cell; `NULL` reads as the zero instant. -/
def instant (r : Record) (name : String) : Instant :=
  match r.cell name with
  | .instant i => i
  | _ => Instant.zero

end Record

def Answer.records (a : Answer) : List Record := a.rows.map fun row => (a.columns.map (·.1)).zip row

def namesOfJson (text : String) : Except Fault (Option (List String)) :=
  if text.isEmpty then .ok none
  else match Json.readValue text with
    | .error e => .error (.plain e.message)
    | .ok (v, rest) =>
      if Json.moreFollows rest then
        .error (.plain ("invalid character " ++ Json.quoteChar ((rest.dropWhile Json.isSpace).headD ' ') ++
          " after top-level value"))
      else match v with
        | .null => .ok none
        | .list items => (items.mapM fun (x : Value) => (match x with
            | .str s => .ok s
            | .null => .ok ""
            | _ => .error (.plain "json: cannot unmarshal value into Go value of type string") :
              Except Fault String)).map some
        | _ => .error (.plain "json: cannot unmarshal value into Go value of type []string")

def namesToJson : Option (List String) → String
  | none => "null"
  | some xs => "[" ++ ",".intercalate (xs.map Json.quote) ++ "]"

def Instant.toMillis (i : Instant) : Instant := ⟨i.seconds, i.nanos / 1000000 * 1000000⟩

/-- A catalog kept in a database of the relational store. -/
structure Stored where
  server : Server
  database : String
deriving Inhabited

namespace Stored

def faultOf (e : ServerError) : Fault :=
  if e.code == 1062 then .signal .duplicatedKey else .plain e.text

/-- The records a query selects. -/
def select (c : Stored) (sql : String) (args : List Value) : Except Fault (List Record) :=
  match c.server.run { args, database := some c.database } sql with
  | .ok (.answer a, _) => .ok (Answer.records a)
  | .ok _ => .ok []
  | .error e => .error (faultOf e)

/-- Runs a statement that writes: the last automatic id and the catalog after. -/
def write (c : Stored) (sql : String) (args : List Value) : Except Fault (Int × Stored) :=
  match c.server.run { args, database := some c.database } sql with
  | .ok (.changed _ lastId, srv) => .ok (lastId, { c with server := srv })
  | .ok (_, srv) => .ok (0, { c with server := srv })
  | .error e => .error (faultOf e)

def migrate (c : Stored) : Stored :=
  catalogSchema.foldl (fun c st => ((c.write st []).map (·.2)).toOption.getD c) c

def first (c : Stored) (sql : String) (args : List Value) : Except Fault (Option Record) := do
  pure (← c.select sql args).head?

/-- The entity of a record. -/
def entityOf (r : Record) : Entity :=
  { id := (r.int "id").toNat, organizationId := r.text "organization_id", serviceId := r.text "service_id"
    connectionId := r.text "connection_id", databaseName := r.text "database_name"
    schema := r.text? "schema_name", name := r.text "name", kind := r.text "kind"
    primaryKey := r.text "primary_key", defaultSort := r.text "default_sort", pathAlias := r.text "path_alias"
    allowRead := r.flag "allow_read", allowCreate := r.flag "allow_create", allowUpdate := r.flag "allow_update"
    allowDelete := r.flag "allow_delete", createdAt := r.instant "created_at", updatedAt := r.instant "updated_at" }

def fieldPolicyOf (r : Record) : Except Fault FieldPolicy := do
  pure { id := (r.int "id").toNat, entityId := (r.int "entity_id").toNat, roleId := r.text? "role_id"
         masked := ← namesOfJson (r.text "masked_fields"), included := ← namesOfJson (r.text "include_fields")
         excluded := ← namesOfJson (r.text "exclude_fields"), createdAt := r.instant "created_at"
         updatedAt := r.instant "updated_at" }

def rowPolicyOf (r : Record) : RowPolicy :=
  { id := (r.int "id").toNat, entityId := (r.int "entity_id").toNat, roleId := r.text? "role_id"
    template := r.text "filter_template", description := r.text "description"
    createdAt := r.instant "created_at", updatedAt := r.instant "updated_at" }

def connectionOf (r : Record) : ServiceConnection :=
  { id := (r.int "id").toNat, serviceId := r.text "service_id", environment := r.text "environment"
    organizationId := r.text "organization_id", connectionId := r.text "connection_id"
    dbType := r.text "db_type", host := r.text "host", port := r.int "port", username := r.text "username"
    password := r.text "password", databaseName := r.text "database_name", tls := r.flag "tls" }

/-- The entity of a service with an id. -/
def entity? (c : Stored) (serviceId : String) (id : Nat) : Except Fault (Option Entity) := do
  pure ((← c.first "SELECT * FROM `exposed_entities` WHERE service_id = ? AND id = ? LIMIT 1"
    [.str serviceId, .int64 id]).map entityOf)

/-- The entity of a service that a reference names: by path alias first, then by name. -/
def entityByRef? (c : Stored) (serviceId ref : String) : Except Fault (Option Entity) := do
  match ← c.first "SELECT * FROM `exposed_entities` WHERE service_id = ? AND path_alias = ? LIMIT 1"
      [.str serviceId, .str ref] with
  | some r => pure (some (entityOf r))
  | none => pure ((← c.first "SELECT * FROM `exposed_entities` WHERE service_id = ? AND name = ? LIMIT 1"
      [.str serviceId, .str ref]).map entityOf)

/-- The entities of a service, by name. -/
def entitiesOf (c : Stored) (serviceId : String) : Except Fault (List Entity) := do
  pure ((← c.select "SELECT * FROM `exposed_entities` WHERE service_id = ? ORDER BY name" [.str serviceId]).map
    entityOf)

/-- Whether a service exposes an entity of a name or under an alias. -/
def exposes (c : Stored) (serviceId name aliasName : String) : Except Fault Bool := do
  let rs ← c.select ("SELECT count(*) AS n FROM `exposed_entities` WHERE service_id = ? AND " ++
    "(name = ? OR path_alias = ?)") [.str serviceId, .str name, .str aliasName]
  pure ((rs.head?.map fun r => r.int "n").getD 0 > 0)

/-- Stores a new entity stamped at `now`; gives it with its id. -/
def createEntity (c : Stored) (now : Instant) (e : Entity) : Except Fault (Entity × Stored) := do
  let (id, c) ← c.write ("INSERT INTO `exposed_entities` (`organization_id`,`service_id`,`connection_id`," ++
    "`database_name`,`schema_name`,`name`,`kind`,`primary_key`,`default_sort`,`path_alias`,`allow_read`," ++
    "`allow_create`,`allow_update`,`allow_delete`,`created_at`,`updated_at`) " ++
    "VALUES (?,?,?,?,?,?,?,?,?,?,?,?,?,?,?,?)")
    [.str e.organizationId, .str e.serviceId, .str e.connectionId, .str e.databaseName,
      (e.schema.map Value.str).getD .null, .str e.name, .str e.kind, .str e.primaryKey, .str e.defaultSort,
      .str e.pathAlias, .bool e.allowRead, .bool e.allowCreate, .bool e.allowUpdate, .bool e.allowDelete,
      .time now, .time now]
  pure ({ e with id := id.toNat, createdAt := now, updatedAt := now }, c)

def deleteEntity (c : Stored) (id : Nat) : Except Fault Stored := do
  pure (← c.write "DELETE FROM `exposed_entities` WHERE id = ?" [.int64 id]).2

/-- Removes an entity with its policies, all or nothing. -/
def revokeEntity (c : Stored) (id : Nat) : Except Fault Stored := do
  let (_, c) ← c.write "DELETE FROM `field_policies` WHERE entity_id = ?" [.int64 id]
  let (_, c) ← c.write "DELETE FROM `row_policies` WHERE entity_id = ?" [.int64 id]
  c.deleteEntity id

def roleScope (entityId : Nat) (roleId : String) : String × List Value :=
  if roleId.isEmpty then ("entity_id = ? AND role_id IS NULL", [.int64 entityId])
  else ("entity_id = ? AND (role_id = ? OR role_id IS NULL)", [.int64 entityId, .str roleId])

def sameRole (entityId : Nat) (roleId : Option String) : String × List Value :=
  match roleId with
  | none => ("entity_id = ? AND role_id IS NULL", [.int64 entityId])
  | some r => ("entity_id = ? AND role_id = ?", [.int64 entityId, .str r])

def fieldPoliciesWhere (c : Stored) (cond : String × List Value) : Except Fault (List FieldPolicy) := do
  (← c.select ("SELECT * FROM `field_policies` WHERE " ++ cond.1 ++ " ORDER BY id") cond.2).mapM
    fieldPolicyOf

def rowPoliciesWhere (c : Stored) (cond : String × List Value) : Except Fault (List RowPolicy) := do
  pure ((← c.select ("SELECT * FROM `row_policies` WHERE " ++ cond.1 ++ " ORDER BY id") cond.2).map
    rowPolicyOf)

def fieldPoliciesFor (c : Stored) (entityId : Nat) (roleId : String) : Except Fault (List FieldPolicy) :=
  c.fieldPoliciesWhere (roleScope entityId roleId)

def rowPoliciesFor (c : Stored) (entityId : Nat) (roleId : String) : Except Fault (List RowPolicy) :=
  c.rowPoliciesWhere (roleScope entityId roleId)

def fieldPoliciesOf (c : Stored) (entityId : Nat) : Except Fault (List FieldPolicy) :=
  c.fieldPoliciesWhere ("entity_id = ?", [.int64 entityId])

def rowPoliciesOf (c : Stored) (entityId : Nat) : Except Fault (List RowPolicy) :=
  c.rowPoliciesWhere ("entity_id = ?", [.int64 entityId])

/-- Stores the field policy of an entity and role: it replaces the one of the same role,
keeping its id and creation, or else is added. -/
def upsertFieldPolicy (c : Stored) (now : Instant) (p : FieldPolicy) : Except Fault (FieldPolicy × Stored) := do
  let cond := sameRole p.entityId p.roleId
  let existing ← c.first ("SELECT * FROM `field_policies` WHERE " ++ cond.1 ++ " LIMIT 1") cond.2
  let values : List Value := [.int64 p.entityId, (p.roleId.map Value.str).getD .null,
    .str (namesToJson p.masked), .str (namesToJson p.included), .str (namesToJson p.excluded)]
  match existing with
  | some r =>
    let old ← fieldPolicyOf r
    let (_, c) ← c.write ("UPDATE `field_policies` SET `entity_id`=?,`role_id`=?,`masked_fields`=?," ++
      "`include_fields`=?,`exclude_fields`=?,`created_at`=?,`updated_at`=? WHERE `id` = ?")
      (values ++ [.time old.createdAt, .time now, .int64 old.id])
    pure ({ p with id := old.id, createdAt := old.createdAt, updatedAt := now }, c)
  | none =>
    let (id, c) ← c.write ("INSERT INTO `field_policies` (`entity_id`,`role_id`,`masked_fields`," ++
      "`include_fields`,`exclude_fields`,`created_at`,`updated_at`) VALUES (?,?,?,?,?,?,?)")
      (values ++ [.time now, .time now])
    pure ({ p with id := id.toNat, createdAt := now, updatedAt := now }, c)

/-- Stores the row policy of an entity and role, as `upsertFieldPolicy` does. -/
def upsertRowPolicy (c : Stored) (now : Instant) (p : RowPolicy) : Except Fault (RowPolicy × Stored) := do
  let cond := sameRole p.entityId p.roleId
  let existing ← c.first ("SELECT * FROM `row_policies` WHERE " ++ cond.1 ++ " LIMIT 1") cond.2
  let values : List Value := [.int64 p.entityId, (p.roleId.map Value.str).getD .null, .str p.template,
    .str p.description]
  match existing with
  | some r =>
    let old := rowPolicyOf r
    let (_, c) ← c.write ("UPDATE `row_policies` SET `entity_id`=?,`role_id`=?,`filter_template`=?," ++
      "`description`=?,`created_at`=?,`updated_at`=? WHERE `id` = ?")
      (values ++ [.time old.createdAt, .time now, .int64 old.id])
    pure ({ p with id := old.id, createdAt := old.createdAt, updatedAt := now }, c)
  | none =>
    let (id, c) ← c.write ("INSERT INTO `row_policies` (`entity_id`,`role_id`,`filter_template`," ++
      "`description`,`created_at`,`updated_at`) VALUES (?,?,?,?,?,?)") (values ++ [.time now, .time now])
    pure ({ p with id := id.toNat, createdAt := now, updatedAt := now }, c)

/-- The connection of a service in an environment. -/
def connection? (c : Stored) (serviceId environment : String) : Except Fault (Option ServiceConnection) := do
  pure ((← c.first "SELECT * FROM `service_connections` WHERE service_id = ? AND environment = ? LIMIT 1"
    [.str serviceId, .str environment]).map connectionOf)

/-- The connections of a service, by environment. -/
def connectionsOf (c : Stored) (serviceId : String) : Except Fault (List ServiceConnection) := do
  pure ((← c.select "SELECT * FROM `service_connections` WHERE service_id = ? ORDER BY environment"
    [.str serviceId]).map connectionOf)

/-- Stores a service connection. -/
def addConnection (c : Stored) (s : ServiceConnection) : Except Fault Stored := do
  pure (← c.write ("INSERT INTO `service_connections` (`service_id`,`environment`,`organization_id`," ++
    "`connection_id`,`db_type`,`host`,`port`,`username`,`password`,`database_name`,`tls`) " ++
    "VALUES (?,?,?,?,?,?,?,?,?,?,?)")
    [.str s.serviceId, .str s.environment, .str s.organizationId, .str s.connectionId, .str s.dbType,
      .str s.host, .int64 s.port, .str s.username, .str s.password, .str s.databaseName, .bool s.tls]).2

end Stored

end RowGate.Catalog
