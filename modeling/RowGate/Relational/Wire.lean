import RowGate.Relational.Database
import RowGate.Executor.Sql
/-!
# Results as a client receives them

Rows in binary form for prepared statements and in text form otherwise, with each column's type
name.
-/

namespace RowGate.Relational

open Executor

/-- How a client sends a statement and reads its rows. -/
inductive Protocol where
  /-- Prepared, with arguments, rows in binary form. -/
  | binary
  /-- Plain text, rows as text. -/
  | text
deriving DecidableEq, Repr, Inhabited

def Protocol.ofArgs (args : List Value) : Protocol := if args.isEmpty then .text else .binary

def bitBytes (width : Nat) (n : Int) : List UInt8 :=
  let count := (width + 7) / 8
  (List.range count).reverse.map fun i => (n.toNat / Nat.pow 256 i % 256).toUInt8

def Datum.onWire (p : Protocol) (t : ColumnType) (d : Datum) : Value :=
  match d, t with
  | .null, _ => .null
  | .instant i, _ => .time i
  | .int n, .bit w => .bytes (bitBytes w n)
  | .bytes b, _ => .bytes b
  | .int n, _ =>
    if p == .binary then .int (if t.isUnsigned then .uint64 else .int64) n
    else .bytes (toString n).toUTF8.toList
  | .double x, _ => if p == .binary then .float x else .bytes (d.asText t).toUTF8.toList
  | .single x, _ => if p == .binary then .float32 x else .bytes (d.asText t).toUTF8.toList
  | d, t => .bytes (d.asText t).toUTF8.toList

def Answer.toResultSet (p : Protocol) (a : Answer) : ResultSet :=
  { columns := a.columns.map fun (n, t) => ⟨n, t.wireName⟩
    rows := a.rows.map fun row => (a.columns.zip row).map fun ((_, t), d) => d.onWire p t }

namespace Server

/-- A connection to a database of the server: it runs each statement with its arguments in a
session whose current database is `database`, and gives what a client receives. A statement
that changes nothing answers with no columns. -/
def connection (srv : Server) (database : Option String) : Executor.Connection := fun sql args =>
  let env : Env := { args, database }
  match srv.run env sql with
  | .ok (.answer a, _) => .ok (a.toResultSet (.ofArgs args))
  | .ok (.changed .., _) => .ok { columns := [], rows := [] }
  | .error e => .error (.plain e.text)

def runAll (srv : Server) (database : String) (statements : List String) : Except ServerError Server :=
  statements.foldlM (fun srv st => do pure (← srv.run { database := some database } st).2) srv

def hosting (database : String) (setup : List String) : Server :=
  setup.foldl (fun srv st => (srv.runAll database [st]).toOption.getD srv) ((default : Server).addDatabase database)

end Server

end RowGate.Relational
