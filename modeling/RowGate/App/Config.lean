import RowGate.App.EnvFile
import RowGate.Number.Parse
import RowGate.Text.Case
import RowGate.Time.Duration
import RowGate.Value.Basic
/-!
# Gateway settings

Settings come from environment variables, each with a default kept when the variable is unset,
empty or unreadable; an environment file adds only the variables the environment does not set.
-/

namespace RowGate.App

/-- The gateway's settings. -/
structure Settings where
  port : String
  dbHost : String
  dbPort : Int
  dbUser : String
  dbPass : String
  dbName : String
  logLevel : String
  logFile : String
  logMaxSize : Int
  logMaxBackups : Int
  logMaxAge : Int
  logCompress : Bool
  queryTimeout : Time.Duration
  defaultPageSize : Int
  dedupGrace : Time.Duration
  dedupMaxEntries : Int
  cacheTtl : Time.Duration
  cacheMaxEntries : Int
  cacheListResponses : Bool
  rowPolicyFailureMode : String
  poolMaxOpen : Int
  poolMaxIdle : Int
  poolConnLifetime : Time.Duration
  realtimePollInterval : Time.Duration
  realtimeBuffer : Int
  rateLimitRpm : Int
  rateLimitBurst : Int
  /-- Schemas that table discovery never offers. -/
  systemSchemas : List String
deriving Repr, Inhabited

def defaultSystemSchemas : List String :=
  ["information_schema", "pg_catalog", "pg_toast", "mysql", "performance_schema", "sys",
    "INFORMATION_SCHEMA"]

section

variable (env : String → Option String)

def textOr (key d : String) : String :=
  match env key with
  | some v => if v.isEmpty then d else v
  | none => d

def intOr (key : String) (d : Int) : Int :=
  let v := textOr env key ""
  if v.isEmpty then d else (Number.parseInt64 v).toOption.getD d

def boolOr (key : String) (d : Bool) : Bool :=
  let v := textOr env key ""
  if v.isEmpty then d else (Number.parseBool v).toOption.getD d

def durationOr (key : String) (d : Time.Duration) : Time.Duration :=
  let v := textOr env key ""
  if v.isEmpty then d
  else match Time.Duration.parse v with
    | .ok x => x
    | .error _ => match Number.parseInt64 v with
      | .ok n => Time.Duration.ofSeconds n
      | .error _ => d

def listOr (key : String) (d : List String) : List String :=
  let v := textOr env key ""
  if v.isEmpty then d
  else ((v.splitOn ",").map Text.trim).filter (!·.isEmpty)

/-- The settings that an environment gives. -/
def Settings.ofEnv : Settings :=
  { port := textOr env "PORT" "8081"
    dbHost := textOr env "DB_HOST" "127.0.0.1"
    dbPort := intOr env "DB_PORT" 3306
    dbUser := textOr env "DB_USER" "root"
    dbPass := textOr env "DB_PASS" ""
    dbName := textOr env "DB_NAME" "autorest_catalog"
    logLevel := textOr env "LOG_LEVEL" "INFO"
    logFile := textOr env "LOG_FILE" ""
    logMaxSize := intOr env "LOG_MAX_SIZE" 10
    logMaxBackups := intOr env "LOG_MAX_BACKUPS" 3
    logMaxAge := intOr env "LOG_MAX_AGE" 28
    logCompress := boolOr env "LOG_COMPRESS" true
    queryTimeout := durationOr env "QUERY_TIMEOUT" (.ofSeconds 15)
    defaultPageSize := intOr env "DEFAULT_PAGE_SIZE" 20
    dedupGrace := durationOr env "DEDUP_GRACE" (.ofMillis 250)
    dedupMaxEntries := intOr env "DEDUP_MAX_ENTRIES" 10000
    cacheTtl := durationOr env "CACHE_TTL" (.ofSeconds 5)
    cacheMaxEntries := intOr env "CACHE_MAX_ENTRIES" 5000
    cacheListResponses := boolOr env "CACHE_LIST_RESPONSES" false
    rowPolicyFailureMode :=
      if (textOr env "ROW_POLICY_FAILURE_MODE" "open").lowerCase == "closed" then "closed" else "open"
    poolMaxOpen := intOr env "POOL_MAX_OPEN" 10
    poolMaxIdle := intOr env "POOL_MAX_IDLE" 5
    poolConnLifetime := durationOr env "POOL_CONN_LIFETIME" (.ofSeconds 1800)
    realtimePollInterval := durationOr env "REALTIME_POLL_INTERVAL" (.ofSeconds 5)
    realtimeBuffer := intOr env "REALTIME_BUFFER" 16
    rateLimitRpm := intOr env "RATE_LIMIT_RPM" 600
    rateLimitBurst := intOr env "RATE_LIMIT_BURST" 100
    systemSchemas := listOr env "SYSTEM_SCHEMAS" defaultSystemSchemas }

end

/-- The variables that the settings read. -/
def Settings.variables : List String :=
  ["PORT", "DB_HOST", "DB_PORT", "DB_USER", "DB_PASS", "DB_NAME", "LOG_LEVEL", "LOG_FILE", "LOG_MAX_SIZE",
    "LOG_MAX_BACKUPS", "LOG_MAX_AGE", "LOG_COMPRESS", "QUERY_TIMEOUT", "DEFAULT_PAGE_SIZE", "DEDUP_GRACE",
    "DEDUP_MAX_ENTRIES", "CACHE_TTL", "CACHE_MAX_ENTRIES", "CACHE_LIST_RESPONSES", "ROW_POLICY_FAILURE_MODE",
    "POOL_MAX_OPEN", "POOL_MAX_IDLE", "POOL_CONN_LIFETIME", "REALTIME_POLL_INTERVAL", "REALTIME_BUFFER",
    "RATE_LIMIT_RPM", "RATE_LIMIT_BURST", "SYSTEM_SCHEMAS"]

/-- The environment after an environment file: the file's last assignment of a name counts
where the environment does not set the name; a malformed file adds nothing. -/
def withEnvFile (env : String → Option String) (file : Option String) : String → Option String :=
  match file.bind (EnvFile.parse env) with
  | none => env
  | some assignments => fun key =>
    match env key with
    | some v => some v
    | none => (assignments.reverse.find? (·.1 == key)).map (·.2)

/-- The data source text of the catalog database. -/
def Settings.catalogDsn (s : Settings) : String :=
  s.dbUser ++ ":" ++ s.dbPass ++ "@tcp(" ++ s.dbHost ++ ":" ++ toString s.dbPort ++ ")/" ++ s.dbName ++
    "?charset=utf8mb4&parseTime=True&loc=UTC"

/-- The settings as an object keyed by their variable names in lower case; durations are
written as duration text. -/
def Settings.toValue (c : Settings) : Value :=
  let d := fun (x : Time.Duration) => Value.str x.text
  .ofPairs [("port", .str c.port), ("db_host", .str c.dbHost), ("db_port", .int64 c.dbPort),
    ("db_user", .str c.dbUser), ("db_pass", .str c.dbPass), ("db_name", .str c.dbName),
    ("log_level", .str c.logLevel), ("log_file", .str c.logFile), ("log_max_size", .int64 c.logMaxSize),
    ("log_max_backups", .int64 c.logMaxBackups), ("log_max_age", .int64 c.logMaxAge),
    ("log_compress", .bool c.logCompress), ("query_timeout", d c.queryTimeout),
    ("default_page_size", .int64 c.defaultPageSize), ("dedup_grace", d c.dedupGrace),
    ("dedup_max_entries", .int64 c.dedupMaxEntries), ("cache_ttl", d c.cacheTtl),
    ("cache_max_entries", .int64 c.cacheMaxEntries), ("cache_list_responses", .bool c.cacheListResponses),
    ("row_policy_failure_mode", .str c.rowPolicyFailureMode), ("pool_max_open", .int64 c.poolMaxOpen),
    ("pool_max_idle", .int64 c.poolMaxIdle), ("pool_conn_lifetime", d c.poolConnLifetime),
    ("realtime_poll_interval", d c.realtimePollInterval), ("realtime_buffer", .int64 c.realtimeBuffer),
    ("rate_limit_rpm", .int64 c.rateLimitRpm), ("rate_limit_burst", .int64 c.rateLimitBurst),
    ("system_schemas", .list (c.systemSchemas.map Value.str))]

def Settings.isSystemSchema (s : Settings) (name : String) : Bool :=
  s.systemSchemas.any (·.equalFold name)

end RowGate.App
