import RowGate.Value.Basic
import RowGate.Number.Parse
import RowGate.Text.Case
import RowGate.Text.Utf8
import RowGate.Fault
import RowGate.Text.Search
/-!
# Result sets

Named, typed columns and rows of cells, possibly cut by a failure, and the conversions a SQL
client applies when reading cells.
-/

namespace RowGate.Executor

open Number

/-- A column of a result set. -/
structure ResultColumn where
  name : String
  /-- The database's name for the column's type. -/
  typeName : String
deriving DecidableEq, Repr, Inhabited

/-- What a database answers to a statement. -/
structure ResultSet where
  columns : List ResultColumn
  rows : List (List Value)
  /-- A failure met on reading the row of this index, if any. -/
  failure : Option (Nat × Fault) := none
deriving Repr, Inhabited

abbrev Row := List (String × Value)

/-- A live column of a table. -/
structure Column where
  name : String
  dataType : String
deriving DecidableEq, Repr, Inhabited

/-- A table, view or collection that discovery found. -/
structure Table where
  schema : String
  name : String
  /-- `TABLE`, `VIEW` or `COLLECTION`. -/
  kind : String
deriving DecidableEq, Repr, Inhabited

namespace ResultSet

/-- The rows read before a failure, and the failure if one interrupts them. -/
def readable (r : ResultSet) : List (List Value) × Option Fault :=
  match r.failure with
  | some (k, f) => if k < r.rows.length then (r.rows.take k, some f) else (r.rows, none)
  | none => (r.rows, none)

end ResultSet

def cellText : Value → String
  | .str s => s
  | .bytes b => Text.ofUtf8 b
  | .int _ n => toString n
  | .float x => x.general
  | .float32 x => x.general
  | .bool b => if b then "true" else "false"
  | .time t => t.rfc3339
  | _ => ""

def scanInt64 (v : Value) : Except String Int :=
  match v with
  | .null => .error "converting NULL to int64 is unsupported"
  | .int .int64 n => .ok n
  | _ =>
    let s := cellText v
    match parseInt64 s with
    | .ok n => .ok n
    | .error e => .error ("converting driver.Value type " ++ v.typeName ++ " (" ++ Text.quote s ++
        ") to a int64: " ++ e.reason)

def scanText (v : Value) : Except String String :=
  match v with
  | .null => .error "converting NULL to string is unsupported"
  | .str _ | .bytes _ | .int .. | .float _ | .float32 _ | .bool _ | .time _ => .ok (cellText v)
  | _ => .error ("unsupported Scan, storing driver.Value type " ++ v.typeName ++ " into type *string")

def scanNullText (v : Value) : Except String String :=
  match v with
  | .null => .ok ""
  | _ => scanText v

def scanFault (index : Nat) (name : String) (why : String) : Fault :=
  .plain ("sql: Scan error on column index " ++ toString index ++ ", name " ++ Text.quote name ++
    ": " ++ why)

def scanRow (cols : List ResultColumn) (readers : List (Value → Except String α))
    (row : List Value) : Except Fault (List α) :=
  if cols.length != readers.length then
    .error (.plain ("sql: expected " ++ toString cols.length ++ " destination arguments in Scan, not " ++
      toString readers.length))
  else
    ((cols.zip (readers.zip row)).zip (List.range cols.length)).mapM fun ((c, (read, v)), i) =>
      (read v).mapError (scanFault i c.name)

def normalizeCell (v : Value) (typeName : String) : Value :=
  match v with
  | .bytes b =>
    let s := Text.ofUtf8 b
    let t := typeName.upperCase
    let has := fun (part : String) => Text.occurs part t
    if has "INT" || t == "YEAR" then
      match parseInt64 s with
      | .ok n => .int .int64 n
      | .error _ => match parseUInt64 s with
        | .ok n => .int .uint64 n
        | .error _ => .str s
    else if has "FLOAT" || has "DOUBLE" || t == "REAL" || has "DECIMAL" || has "NUMERIC" || t == "MONEY" then
      match Binary64.parse s with
      | .ok x => .float x
      | .error _ => .str s
    else if t == "BOOL" || t == "BOOLEAN" || t == "BIT" then
      match parseBool s with
      | .ok x => .bool x
      | .error _ => .str s
    else if has "BLOB" || has "BINARY" || t == "BYTEA" || t == "IMAGE" then .bytes b
    else .str s
  | _ => v

namespace ResultSet

/-- The records of a result set; a column named twice keeps its last cell. -/
def records (r : ResultSet) : Except Fault (List Row) :=
  let (rows, failure) := r.readable
  let out := rows.map fun row =>
    Entries.ofList ((r.columns.zip row).map fun (c, v) => (c.name, normalizeCell v c.typeName))
  match failure with
  | some f => .error f
  | none => .ok out

/-- The integer in the first cell of the first row. -/
def count (r : ResultSet) : Except Fault Int :=
  match r.readable with
  | ([], some f) => .error f
  | ([], none) => .error (.plain "sql: no rows in result set")
  | (row :: _, _) => do
    let vs ← scanRow r.columns [scanInt64] row
    match vs with
    | [n] => pure n
    | _ => pure 0

/-- The columns that a column listing names: a name and a lower-cased type per row. -/
def columnList (r : ResultSet) : Except Fault (List Column) := do
  let (rows, failure) := r.readable
  let cols ← rows.mapM fun row => do
    let vs ← (scanRow r.columns [scanText, scanText] row).mapError (Fault.wrapped "failed to scan column")
    match vs with
    | [n, t] => pure (⟨n, t.lowerCase⟩ : Column)
    | _ => pure ⟨"", ""⟩
  match failure with
  | some f => throw f
  | none => pure cols

/-- The tables that a table listing names: schema, name and a type that makes a view when it
contains `VIEW` in any case. -/
def tableList (r : ResultSet) : Except Fault (List Table) := do
  let (rows, failure) := r.readable
  let tables ← rows.mapM fun row => do
    let vs ← (scanRow r.columns [scanNullText, scanNullText, scanNullText] row).mapError
      (Fault.wrapped "failed to scan table")
    match vs with
    | [s, n, t] => pure (⟨s, n, if Text.occurs "VIEW" t.upperCase then "VIEW" else "TABLE"⟩ : Table)
    | _ => pure ⟨"", "", ""⟩
  match failure with
  | some f => throw f
  | none => pure tables

end ResultSet

end RowGate.Executor
