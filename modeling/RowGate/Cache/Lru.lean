/-!
# Bounded response cache

At most `capacity` entries, most recent first; storing or reading a key makes it the most recent
and the least recently used entry goes when the cache is full.
-/

namespace RowGate.Cache

/-- A bounded cache, most recently used entry first. -/
structure Lru (α : Type) where
  capacity : Nat
  entries : List (String × α) := []
deriving Repr

namespace Lru

def empty (size : Int) : Lru α := ⟨if size ≤ 0 then 5000 else size.toNat, []⟩

def size (c : Lru α) : Nat := c.entries.length

/-- The value of a key, if present, and the cache with the key made most recent. -/
def get (c : Lru α) (key : String) : Option α × Lru α :=
  match c.entries.find? (·.1 == key) with
  | some (_, v) => (some v, { c with entries := (key, v) :: c.entries.filter (·.1 != key) })
  | none => (none, c)

/-- Stores a value under a key, dropping the least recent entry when over capacity. -/
def set (c : Lru α) (key : String) (v : α) : Lru α :=
  let entries := (key, v) :: c.entries.filter (·.1 != key)
  { c with entries := entries.take c.capacity }

def purge (c : Lru α) : Lru α := { c with entries := [] }

end Lru

end RowGate.Cache
