import RowGate.Fault
import RowGate.Text.Blank
import RowGate.Text.Case
import RowGate.Text.Quoted
/-!
# Database kinds

The four kinds of database, named by any of their spellings in any case.
-/

namespace RowGate.Query

/-- A kind of database. -/
inductive Kind where
  | postgres | mysql | mssql | mongodb
deriving DecidableEq, Repr, Inhabited

namespace Kind

def name : Kind → String
  | postgres => "postgres" | mysql => "mysql" | mssql => "mssql" | mongodb => "mongodb"

def unsupported (s : String) : Fault :=
  .new .unsupportedDatabaseType ("unsupported database type " ++ Text.quote s)

/-- Reads a configured database type. -/
def parse (s : String) : Except Fault Kind :=
  match (Text.trim s).lowerCase with
  | "postgres" | "postgresql" | "pg" => .ok postgres
  | "mysql" | "mariadb" => .ok mysql
  | "mssql" | "sqlserver" => .ok mssql
  | "mongodb" | "mongo" => .ok mongodb
  | _ => .error (unsupported s)

/-- The kind with exactly this canonical name. -/
def ofName (s : String) : Except Fault Kind :=
  match s with
  | "postgres" => .ok postgres
  | "mysql" => .ok mysql
  | "mssql" => .ok mssql
  | "mongodb" => .ok mongodb
  | _ => .error (unsupported s)

end Kind

end RowGate.Query
