import RowGate.Query.Sql
/-!
# Change notifications

Native delivery installs, on each watched table, a statement-level trigger that calls one
notify function; the function sends `schema.table` of the changed table on one channel. A
table without schema is in `public`.
-/

namespace RowGate.Realtime

def channel : String := "dbautorest_changes"

def notifyFunction : String :=
  "CREATE OR REPLACE FUNCTION dbautorest_notify_change() RETURNS trigger AS $$\nBEGIN\n\tPERFORM pg_notify('" ++
    channel ++ "', TG_TABLE_SCHEMA || '.' || TG_TABLE_NAME);\n\tRETURN NULL;\nEND;\n$$ LANGUAGE plpgsql"

def schemaOf (t : Query.TableRef) : String := if t.schema.isEmpty then "public" else t.schema

/-- The statements that make a table notify its changes. -/
def triggerStatements (t : Query.TableRef) : List String :=
  let q := Query.SqlDialect.postgres.quote
  [notifyFunction,
    "CREATE OR REPLACE TRIGGER dbautorest_notify_change AFTER INSERT OR UPDATE OR DELETE OR TRUNCATE ON " ++
      q (schemaOf t) ++ "." ++ q t.name ++ " FOR EACH STATEMENT EXECUTE FUNCTION dbautorest_notify_change()"]

def payload (t : Query.TableRef) : String := schemaOf t ++ "." ++ t.name

end RowGate.Realtime
