import RowGate.Fault
import RowGate.Connection.Config
/-!
# Connection pools

One executor per connection fingerprint, opened by its first caller and shared by later ones;
a refresh replaces an executor only while it is still the stale one, and closing refuses later
callers.
-/

namespace RowGate.Connection

/-- A pool slot: an executor being opened, or an open one. -/
inductive Slot (α : Type) where
  | opening
  | ready (ex : α)
deriving Repr

/-- The executors by fingerprint. -/
structure Pools (α : Type) where
  slots : List (String × Slot α) := []
  closed : Bool := false
deriving Repr

/-- How a caller of a fingerprint is served. -/
inductive Lookup (α : Type) where
  /-- The pools are closed. -/
  | refused
  /-- The executor is open. -/
  | found (ex : α)
  /-- Another caller is opening it. -/
  | waiting
  /-- The caller opens it. -/
  | opens
deriving Repr

def managerClosed : Fault := .plain "driver manager is closed"

namespace Pools

def size (p : Pools α) : Nat := p.slots.length

def find? (p : Pools α) (key : String) : Option (Slot α) :=
  (p.slots.find? (·.1 == key)).map (·.2)

def erase (p : Pools α) (key : String) : Pools α :=
  { p with slots := p.slots.filter (·.1 != key) }

/-- The look-up under the write lock: the open executor, the opening to wait for, or a new
opening slot for the caller to fill. It does not look at whether the pools are closed. -/
def reserve (p : Pools α) (key : String) : Lookup α × Pools α :=
  match p.find? key with
  | some (.ready ex) => (.found ex, p)
  | some .opening => (.waiting, p)
  | none => (.opens, { p with slots := p.slots ++ [(key, .opening)] })

def lookup (p : Pools α) (key : String) : Lookup α × Pools α :=
  if p.closed then (.refused, p) else p.reserve key

/-- Records under the lock how an opening ended: the caller's result, an executor that must be
closed at once, and the pools afterwards. A failure drops the slot and names the database type
and the fingerprint; an executor opened after the close is refused; any other is kept for its
slot, which is marked ready only once the lock is released. -/
def store (p : Pools α) (key type : String) (r : Except Fault α) :
    Except Fault α × Option α × Pools α :=
  match r with
  | .error e =>
    (.error (.wrapped ("failed to open " ++ type ++ " pool " ++ key) e), none, p.erase key)
  | .ok ex => if p.closed then (.error managerClosed, some ex, p) else (.ok ex, none, p)

def markReady (p : Pools α) (key : String) (ex : α) : Pools α :=
  { p with slots := p.slots.map fun (k, s) => if k == key then (k, .ready ex) else (k, s) }

/-- How an opening ended: stored under the lock, then marked ready. -/
def settle (p : Pools α) (key type : String) (r : Except Fault α) :
    Except Fault α × Option α × Pools α :=
  match p.store key type r with
  | (.ok ex, extra, q) => (.ok ex, extra, q.markReady key ex)
  | s => s

/-- Drops the executor of a fingerprint when it is the stale one; gives it back to be closed. -/
def discard [BEq α] (p : Pools α) (key : String) (stale : α) : Option α × Pools α :=
  match p.find? key with
  | some (.ready ex) => if ex == stale then (some ex, p.erase key) else (none, p)
  | _ => (none, p)

/-- Closes the pools: the open executors to close, with their fingerprints, and the pools
afterwards, empty and refusing callers. -/
def close (p : Pools α) : List (String × α) × Pools α :=
  (p.slots.filterMap fun (k, s) => match s with
    | .ready ex => some (k, ex)
    | .opening => none, { slots := [], closed := true })

/-- Closes the pools and each open executor with `closeEx`: the failure that joins every
executor's failure, named by its fingerprint, if any failed, and the pools afterwards. -/
def closeAll (p : Pools α) (closeEx : α → Option Fault) : Option Fault × Pools α :=
  let (opened, p) := p.close
  let errs := opened.filterMap fun (k, ex) => (closeEx ex).map (.wrapped ("close pool " ++ k))
  (if errs.isEmpty then none else some (.joined errs), p)

end Pools

section

variable {m : Type → Type} [Monad m] {α : Type}

/-- The executor of a connection, opened with `openWith` when the pools have none, and the
pools afterwards. A caller that would wait for another's opening fails with `waitFault`. -/
def Pools.get (p : Pools α) (openWith : Config → ExceptT Fault m α) (closeEx : α → m Unit)
    (waitFault : Fault) (cfg : Config) : m (Except Fault α × Pools α) := do
  let key := cfg.fingerprint
  match p.lookup key with
  | (.refused, _) => pure (.error managerClosed, p)
  | (.found ex, p) => pure (.ok ex, p)
  | (.waiting, _) => pure (.error waitFault, p)
  | (.opens, p) =>
    let (r, extra, p) := p.settle key cfg.type (← (openWith cfg).run)
    if let some ex := extra then closeEx ex
    pure (r, p)

end

end RowGate.Connection
