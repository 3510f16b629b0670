import RowGate.Catalog.Entity
import RowGate.Policy.Row
import RowGate.Connection.Config
import RowGate.Executor.ResultSet
import RowGate.Query.Plan
/-!
# Backends

The catalog, the registry of services, the pools and databases the services stand on, as
operations in a monad `m` over executors of type `ε`.
-/

namespace RowGate

open Catalog Policy Executor Query

def caught {m : Type → Type} [Monad m] (x : ExceptT Fault m α) : ExceptT Fault m (Except Fault α) :=
  ExceptT.lift x.run

/-- An action whose failure is wrapped with a code and a message. -/
def wrapFailure {m : Type → Type} [Monad m] (code : Code) (message : String) (x : ExceptT Fault m α) :
    ExceptT Fault m α := do
  match ← caught x with
  | .ok a => pure a
  | .error err => throw (.wrap code err message)

/-- An action whose failure is explained by a context. -/
def explainFailure {m : Type → Type} [Monad m] (context : String) (x : ExceptT Fault m α) :
    ExceptT Fault m α := do
  match ← caught x with
  | .ok a => pure a
  | .error err => throw (.wrapped context err)

/-- A service with its connection. -/
structure Service where
  id : String
  organizationId : String := ""
  connectionId : String := ""
  connection : Connection.Config
deriving Repr, Inhabited

/-- The operations a backend offers. -/
structure Backend (m : Type → Type) (ε : Type) where
  /-- The entity a service exposes under a path alias or, failing that, a name. -/
  findEntity : (serviceId ref : String) → ExceptT Fault m (Option Entity)
  /-- The entity of a service with an id. -/
  getEntity : (serviceId : String) → (id : Nat) → ExceptT Fault m (Option Entity)
  /-- The entities of a service, by name. -/
  listEntities : (serviceId : String) → ExceptT Fault m (List Entity)
  /-- Whether a service exposes an entity of a name or under an alias. -/
  entityExists : (serviceId name aliasName : String) → ExceptT Fault m Bool
  /-- Stores a new entity, giving it its id. -/
  createEntity : Entity → ExceptT Fault m Entity
  /-- Removes an entity with its policies, all or nothing. -/
  revokeEntity : (id : Nat) → ExceptT Fault m Unit
  /-- The field policies of an entity that apply to a role, by id. -/
  fieldPolicies : (entityId : Nat) → (roleId : String) → ExceptT Fault m (List FieldPolicy)
  /-- The row policies of an entity that apply to a role, by id. -/
  rowPolicies : (entityId : Nat) → (roleId : String) → ExceptT Fault m (List RowPolicy)
  /-- Every field policy of an entity, by id. -/
  listFieldPolicies : (entityId : Nat) → ExceptT Fault m (List FieldPolicy)
  /-- Every row policy of an entity, by id. -/
  listRowPolicies : (entityId : Nat) → ExceptT Fault m (List RowPolicy)
  /-- Stores the field policy of an entity and role. -/
  upsertFieldPolicy : FieldPolicy → ExceptT Fault m FieldPolicy
  /-- Stores the row policy of an entity and role. -/
  upsertRowPolicy : RowPolicy → ExceptT Fault m RowPolicy
  /-- The service with its connection in an environment. -/
  resolve : (serviceId environment : String) → ExceptT Fault m Service
  /-- An executor for a connection. -/
  acquire : Connection.Config → ExceptT Fault m ε
  /-- A fresh executor in place of a stale one. -/
  refresh : Connection.Config → ε → ExceptT Fault m ε
  /-- The tables, views and collections of the database. -/
  tables : ε → ExceptT Fault m (List Table)
  /-- The live columns of a table. -/
  columns : ε → TableRef → ExceptT Fault m (List Column)
  /-- The rows a plan selects. -/
  query : ε → Plan → ExceptT Fault m (List Row)
  /-- The number of rows a plan's filter matches. -/
  count : ε → Plan → ExceptT Fault m Int
  /-- Drops every cached response. -/
  invalidate : m Unit
  /-- Opens a session with the database server of a connection, for simple statements and
  notifications. -/
  openSession : Connection.Config → ExceptT Fault m Nat
  /-- Runs a simple statement in a session. -/
  execute : (session : Nat) → (statement : String) → ExceptT Fault m Unit
  /-- Ends a session. -/
  closeSession : Nat → m Unit

end RowGate
