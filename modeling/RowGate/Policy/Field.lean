import RowGate.Value.Instant
/-!
# Field policies

Which columns a role sees: the allowed columns of the selected policy, its masks among them, and
the readable ones, allowed and not masked.
-/

namespace RowGate.Policy

/-- A field policy as stored; absent lists differ from empty ones in stored form only. -/
structure FieldPolicy where
  id : Nat
  entityId : Nat
  roleId : Option String
  masked : Option (List String) := none
  included : Option (List String) := none
  excluded : Option (List String) := none
  createdAt : Instant := Instant.zero
  updatedAt : Instant := Instant.zero
deriving DecidableEq, Repr, Inhabited

/-- What a role may see of an entity. -/
structure FieldAccess where
  allowed : List String
  masked : List String
deriving DecidableEq, Repr, Inhabited

namespace FieldAccess

def isMasked (a : FieldAccess) (col : String) : Bool := a.masked.contains col

def readable (a : FieldAccess) : List String := a.allowed.filter fun c => !a.isMasked c

end FieldAccess

def dedup (xs : List String) : List String :=
  xs.foldl (fun acc x => if acc.contains x then acc else acc ++ [x]) []

/-- The access a policy grants on the discovered columns. -/
def FieldPolicy.apply (p : FieldPolicy) (discovered : List String) : FieldAccess :=
  let included := p.included.getD []
  let excluded := p.excluded.getD []
  let allowed := if included.isEmpty then discovered.filter fun c => !excluded.contains c
    else dedup (included.filter discovered.contains)
  ⟨allowed, dedup ((p.masked.getD []).filter allowed.contains)⟩

/-- The policies of an entity that apply to a role, by id: those of the role and those of
no role, or only the latter when the role is empty. -/
def forRole {α : Type} (entityOf : α → Nat) (roleOf : α → Option String) (idOf : α → Nat)
    (all : List α) (entityId : Nat) (roleId : String) : List α :=
  let keep := all.filter fun p =>
    entityOf p == entityId &&
      (match roleOf p with
        | none => true
        | some r => !roleId.isEmpty && r == roleId)
  keep.mergeSort fun a b => idOf a ≤ idOf b

/-- The policy a role uses among those that apply: its own, else the first without role. -/
def select {α : Type} (roleOf : α → Option String) (policies : List α) (roleId : String) :
    Option α :=
  let own := if roleId.isEmpty then none else policies.find? fun p => roleOf p == some roleId
  own.orElse fun _ => policies.find? fun p => (roleOf p).isNone

/-- The access of a role: the selected policy applied, or every column. -/
def resolveFields (policies : List FieldPolicy) (roleId : String) (discovered : List String) :
    FieldAccess :=
  match select FieldPolicy.roleId policies roleId with
  | some p => p.apply discovered
  | none => ⟨discovered, []⟩

end RowGate.Policy
