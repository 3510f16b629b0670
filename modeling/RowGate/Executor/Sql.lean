import RowGate.Executor.ResultSet
import RowGate.Query.Builder
/-!
# Executing plans on a SQL database

The statements of a dialect sent over a connection: column and table listings, a plan's
statement and its count.
-/

namespace RowGate.Executor

open Query

abbrev Connection := String → List Value → Except Fault ResultSet

namespace SqlExecutor

/-- The live columns of a table. -/
def columns (d : SqlDialect) (db : Connection) (t : TableRef) : Except Fault (List Column) :=
  let (sql, args) := d.columnsQuery t
  match db sql args with
  | .error f => .error (.wrapped ("failed to introspect columns of " ++ t.name) f)
  | .ok r => r.columnList

/-- The tables and views of the database. -/
def tables (d : SqlDialect) (db : Connection) : Except Fault (List Table) :=
  match db d.tablesQuery [] with
  | .error f => .error (.wrapped "failed to list tables" f)
  | .ok r => r.tableList

def query (db : Connection) (p : Plan) : Except Fault (List Row) :=
  (db p.sql p.args).bind ResultSet.records

def count (db : Connection) (p : Plan) : Except Fault Int :=
  (db p.countSql p.countArgs).bind ResultSet.count

end SqlExecutor

/-- The SQL dialect of an executor of an exact kind name: a document store is no SQL dialect. -/
def sqlDialect (kind : String) : Except Fault SqlDialect := do
  match ← Builder.forName kind with
  | .sql d => pure d
  | .document => throw (.plain (kind ++ " is not a SQL dialect"))

end RowGate.Executor
