import RowGate.Catalog.Entity
import RowGate.Policy.Row
/-!
# The catalog store

Entities and their field and row policies, each new record under the next id; a policy for an
entity and role that already has one replaces it under its id.
-/

namespace RowGate.Catalog

open Policy

/-- The records of the catalog. -/
structure Store where
  entities : List Entity := []
  fieldPolicies : List FieldPolicy := []
  rowPolicies : List RowPolicy := []
deriving Repr, Inhabited

def nextId (ids : List Nat) : Nat := ids.foldl max 0 + 1

/-- Stores a record under the id of the record it replaces, or under a new id. -/
def upsertBy {α : Type} (same : α → Bool) (idOf : α → Nat) (withId : α → Nat → α)
    (records : List α) (r : α) : List α × α :=
  match records.find? same with
  | some old =>
    let r := withId r (idOf old)
    (records.map fun x => if same x then r else x, r)
  | none =>
    let r := withId r (nextId (records.map idOf))
    (records ++ [r], r)

namespace Store

def entitiesOf (s : Store) (serviceId : String) : List Entity :=
  (s.entities.filter (·.serviceId == serviceId)).mergeSort fun a b => a.name ≤ b.name

def entity? (s : Store) (serviceId : String) (id : Nat) : Option Entity :=
  s.entities.find? fun e => e.serviceId == serviceId && e.id == id

def exposes (s : Store) (serviceId name aliasName : String) : Bool :=
  s.entities.any fun e => e.serviceId == serviceId && (e.name == name || e.pathAlias == aliasName)

/-- Adds an entity under the next id. -/
def create (s : Store) (e : Entity) : Store × Entity :=
  let e := { e with id := nextId (s.entities.map (·.id)) }
  ({ s with entities := s.entities ++ [e] }, e)

/-- Removes an entity and its policies. -/
def revoke (s : Store) (id : Nat) : Store :=
  { entities := s.entities.filter (·.id != id)
    fieldPolicies := s.fieldPolicies.filter (·.entityId != id)
    rowPolicies := s.rowPolicies.filter (·.entityId != id) }

def fieldPoliciesOf (s : Store) (entityId : Nat) : List FieldPolicy :=
  (s.fieldPolicies.filter (·.entityId == entityId)).mergeSort fun a b => a.id ≤ b.id

def rowPoliciesOf (s : Store) (entityId : Nat) : List RowPolicy :=
  (s.rowPolicies.filter (·.entityId == entityId)).mergeSort fun a b => a.id ≤ b.id

/-- Stores the field policy of an entity and role. -/
def upsertField (s : Store) (p : FieldPolicy) : Store × FieldPolicy :=
  let (ps, p) := upsertBy (fun x => x.entityId == p.entityId && x.roleId == p.roleId) FieldPolicy.id
    (fun x i => { x with id := i }) s.fieldPolicies p
  ({ s with fieldPolicies := ps }, p)

/-- Stores the row policy of an entity and role. -/
def upsertRow (s : Store) (p : RowPolicy) : Store × RowPolicy :=
  let (ps, p) := upsertBy (fun x => x.entityId == p.entityId && x.roleId == p.roleId) RowPolicy.id
    (fun x i => { x with id := i }) s.rowPolicies p
  ({ s with rowPolicies := ps }, p)

end Store

end RowGate.Catalog
