import RowGate.Connection.Postgres
/-!
# Locating mongodb and mysql databases

The `mongodb://` URL and the mysql data source text written from a connection's settings.
-/

namespace RowGate.Connection

open Net

/-- The mongodb URL of a connection. -/
def Config.mongoUri (c : Config) : String :=
  let user := if c.user.isEmpty then "" else
    escape .userInfo c.user ++ ":" ++ escape .userInfo c.password ++ "@"
  let query := c.options.foldl (fun q (k, v) => setParam q k v)
    (if c.tls then [("tls", "true")] else [])
  "mongodb://" ++ user ++ escape .host (c.hostPort 27017) ++ "/" ++
    (if query.isEmpty then "" else "?" ++ encodeQuery query)

/-- The mysql data source text of a connection dialled with the given timeout. -/
def Config.mysqlDsn (c : Config) (dialTimeout : Time.Duration) : String :=
  let user := if c.user.isEmpty then "" else
    c.user ++ (if c.password.isEmpty then "" else ":" ++ c.password) ++ "@"
  let params := [("parseTime", "true")] ++
    (if dialTimeout.nanos > 0 then [("timeout", dialTimeout.text)] else []) ++
    (if c.tls then [("tls", "true")] else []) ++
    ((c.options.mergeSort fun a b => a.1 ≤ b.1).map fun (k, v) => (k, escape .queryComponent v))
  user ++ "tcp(" ++ c.hostPort 3306 ++ ")/" ++ escape .pathSegment c.database ++ "?" ++
    "&".intercalate (params.map fun (k, v) => k ++ "=" ++ v)

end RowGate.Connection
