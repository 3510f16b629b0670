import RowGate.Fault
/-!
# Shared executions

At most one execution per key at a time: later callers join it, a success may be kept for a
grace period, and executions are numbered so an old timer never removes a newer one.
-/

namespace RowGate.Cache

/-- An execution in the table. -/
structure Flight (α : Type) where
  /-- Tells executions of one key apart. -/
  serial : Nat
  /-- The result, once the execution has finished. -/
  result : Option (Except Fault α) := none
deriving Repr

/-- The table of executions in flight. -/
structure Inflight (α : Type) where
  flights : List (String × Flight α) := []
  /-- Whether a successful execution is kept after it finishes. -/
  keeps : Bool
  max : Nat
  closed : Bool := false
  nextSerial : Nat := 0
deriving Repr

/-- How an arriving caller is served. -/
inductive Arrival (α : Type) where
  /-- Another execution of the key is in the table; the caller shares it. -/
  | joined (f : Flight α)
  /-- The caller runs its own execution, recorded under this serial number. -/
  | leader (serial : Nat)
  /-- The caller runs its own execution without recording it. -/
  | alone
deriving Repr

namespace Inflight

def empty (keeps : Bool) (max : Int) : Inflight α :=
  { keeps, max := if max ≤ 0 then 10000 else max.toNat }

def size (g : Inflight α) : Nat := g.flights.length

def find? (g : Inflight α) (key : String) : Option (Flight α) :=
  (g.flights.find? (·.1 == key)).map (·.2)

def update (g : Inflight α) (key : String) (f : Flight α → Flight α) : Inflight α :=
  { g with flights := g.flights.map fun (k, x) => if k == key then (k, f x) else (k, x) }

def forget (g : Inflight α) (key : String) (serial : Nat) : Inflight α :=
  { g with flights := g.flights.filter fun (k, x) => !(k == key && x.serial == serial) }

/-- Serves a caller of a key as it arrives. -/
def arrive (g : Inflight α) (key : String) : Arrival α × Inflight α :=
  match g.find? key with
  | some f => (.joined f, g)
  | none =>
    if g.closed || g.max ≤ g.size then (.alone, g)
    else
      let s := g.nextSerial
      (.leader s, { g with flights := g.flights ++ [(key, { serial := s })], nextSerial := s + 1 })

/-- Records the result of the execution with the given serial number: it is kept with its
result when it succeeded and the table keeps successes, and dropped otherwise. -/
def finish (g : Inflight α) (key : String) (serial : Nat) (r : Except Fault α) : Inflight α :=
  match r with
  | .ok _ =>
    if g.keeps then
      g.update key fun x => if x.serial == serial then { x with result := some r } else x
    else g.forget key serial
  | .error _ => g.forget key serial

def close (g : Inflight α) : Inflight α := { g with flights := [], closed := true }

/-- What a caller receives: a result, and whether another caller's execution produced it. -/
structure Answer (α : Type) where
  result : Except Fault α
  shared : Bool
deriving Repr

/-- A caller whose execution gives `run` at once: its answer, `none` while it waits for a
running execution, and the table afterwards. -/
def call (g : Inflight α) (key : String) (run : Except Fault α) : Option (Answer α) × Inflight α :=
  match g.arrive key with
  | (.joined f, g') =>
    match f.result with
    | some r => (some ⟨r, true⟩, g')
    | none => (none, g')
  | (.leader s, g') => (some ⟨run, false⟩, g'.finish key s run)
  | (.alone, g') => (some ⟨run, false⟩, g')

end Inflight

end RowGate.Cache
