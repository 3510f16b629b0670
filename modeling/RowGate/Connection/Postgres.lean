import RowGate.Connection.Config
import RowGate.Net.Url
import RowGate.Net.Ip
import RowGate.Number.Parse
import RowGate.Time.Duration
import RowGate.Fault
/-!
# Reaching a postgres database

A connection written as a `postgres://` URL and read back as a postgres client reads it; a
failure names the URL with its password hidden.
-/

namespace RowGate.Connection

open Net

/-- How a postgres client reaches its server. -/
structure PostgresTarget where
  host : String
  port : Nat
  database : String
  user : String
  password : String
  tls : Bool
  connectTimeout : Time.Duration
  /-- Parameters sent to the server at start-up, by name. -/
  runtimeParams : List (String × String)
deriving Repr, Inhabited

abbrev Settings := List (String × String)

def Settings.get? (s : Settings) (k : String) : Option String := (s.find? (·.1 == k)).map (·.2)

def Settings.getD (s : Settings) (k : String) : String := (s.get? k).getD ""

def Config.portOr (c : Config) (fallback : Int) : Int := if c.port > 0 then c.port else fallback

def Config.hostPort (c : Config) (fallback : Int) : String :=
  joinHostPort c.host (toString (c.portOr fallback))

def Config.postgresQuery (c : Config) : List (String × String) :=
  c.options.foldl (fun q (k, v) => setParam q k v) [("sslmode", if c.tls then "require" else "disable")]

def Config.postgresUrl (c : Config) (password : String) : String :=
  "postgres://" ++ escape .userInfo c.user ++ ":" ++ escape .userInfo password ++ "@" ++
    escape .host (c.hostPort 5432) ++ escape .path ("/" ++ c.database) ++ "?" ++
    encodeQuery c.postgresQuery

def replaceMatches (matchAt : List Char → Option Nat) (repl : List Char) : List Char → List Char
  | [] => []
  | c :: cs =>
    match matchAt (c :: cs) with
    | some n =>
      if _h : 0 < n then repl ++ replaceMatches matchAt repl ((c :: cs).drop n)
      else c :: replaceMatches matchAt repl cs
    | none => c :: replaceMatches matchAt repl cs
termination_by cs => cs.length
decreasing_by all_goals (simp_all <;> omega)

def quotedPasswordAt (cs : List Char) : Option Nat :=
  let key := "password='".toList
  if cs.take key.length == key then
    ((cs.drop key.length).findIdx? (· == '\'')).map fun i => key.length + i + 1
  else none

def plainPasswordAt (cs : List Char) : Option Nat :=
  let key := "password=".toList
  if cs.take key.length == key then
    some (key.length + ((cs.drop key.length).takeWhile (· != ' ')).length)
  else none

def userInfoAt : List Char → Option Nat
  | ':' :: r =>
    let run := r.takeWhile fun c => c != ':' && c != '@'
    if !run.isEmpty && (r.drop run.length).head? == some '@' then some (run.length + 2) else none
  | _ => none

def redactText (s : String) : String :=
  let s := replaceMatches quotedPasswordAt "password=xxxxx".toList s.toList
  let s := replaceMatches plainPasswordAt "password=xxxxx".toList s
  String.ofList (replaceMatches userInfoAt ":xxxxxx@".toList s)

def isAddressOnly (piece : String) : Bool :=
  isIpAddress (String.ofList (piece.toList.dropWhile (· ∈ ['[', ']'])
    |>.reverse.dropWhile (· ∈ ['[', ']']) |>.reverse)) || !piece.contains ':'

def splitHosts (hostPort : String) : Except String (List String × List String) :=
  (hostPort.splitOn ",").foldlM (fun (acc : List String × List String) piece =>
    let (hosts, ports) := acc
    if piece.isEmpty then .ok acc
    else if isAddressOnly piece then
      let trimmed := piece.toList.dropWhile (· ∈ ['[', ']']) |>.reverse.dropWhile (· ∈ ['[', ']'])
        |>.reverse
      .ok (hosts ++ [String.ofList trimmed], ports)
    else match splitHostPort piece with
      | .error e => .error ("failed to split host:port in '" ++ piece ++ "', err: " ++ e.message piece)
      | .ok (h, p) => .ok (if h.isEmpty then hosts else hosts ++ [h], if p.isEmpty then ports else ports ++ [p]))
    ([], [])

def socketDirectory : String := "/tmp"

def Config.postgresSettings (c : Config) : Except String Settings := do
  let (hosts, ports) ← splitHosts (c.hostPort 5432)
  let defaults : Settings := [("host", socketDirectory), ("port", "5432"), ("target_session_attrs", "any")]
  let fromUrl : Settings := [("user", c.user), ("password", c.password)] ++
    (if hosts.isEmpty then [] else [("host", ",".intercalate hosts)]) ++
    (if ports.isEmpty then [] else [("port", ",".intercalate ports)]) ++
    (let db := String.ofList (c.database.toList.dropWhile (· == '/'))
     if db.isEmpty then [] else [("database", db)]) ++
    ((c.postgresQuery.mergeSort fun a b => a.1 ≤ b.1).map fun (k, v) =>
      (if k == "dbname" then "database" else k, v))
  pure (fromUrl.foldl (fun s (k, v) => setParam s k v) defaults)

def clientSettings : List String :=
  ["host", "port", "database", "user", "password", "passfile", "connect_timeout", "sslmode",
    "sslkey", "sslcert", "sslrootcert", "sslpassword", "sslsni", "krbspn", "krbsrvname",
    "target_session_attrs", "service", "servicefile"]

def readTimeout (t : String) : Except String Time.Duration :=
  match Number.parseInt64 t with
  | .error e => .error (e.message "ParseInt" t)
  | .ok n => if n < 0 then .error "negative timeout" else .ok (Time.Duration.ofSeconds n)

def readPort (p : String) : Except String Nat :=
  match Number.parseNatBelow (Nat.pow 2 16) p with
  | .error e => .error (e.message "ParseUint" p)
  | .ok n => if n < 1 then .error "outside range" else .ok n

def missingFile (path : String) : String := "open " ++ path ++ ": no such file or directory"

def firstUsesTls (s : Settings) : Except String Bool := do
  let mode := if s.getD "sslmode" == "" then "prefer" else s.getD "sslmode"
  if mode == "disable" then return false
  unless ["allow", "prefer", "require", "verify-ca", "verify-full"].contains mode do
    throw "sslmode is invalid"
  let root := s.getD "sslrootcert"
  unless root.isEmpty do throw ("unable to read CA file: " ++ missingFile root)
  let cert := s.getD "sslcert"
  let key := s.getD "sslkey"
  if cert.isEmpty != key.isEmpty then throw "both \"sslcert\" and \"sslkey\" are required"
  unless key.isEmpty do throw ("unable to read sslkey: " ++ missingFile key)
  return mode != "allow"

def hostAttempts (s : Settings) : Except (String × Option String) (List (String × Nat × Bool)) :=
  let hosts := (s.getD "host").splitOn ","
  let ports := (s.getD "port").splitOn ","
  (hosts.zip (List.range hosts.length)).mapM fun (h, i) => do
    let portText := (ports[i]?).getD (ports.headD "")
    let port ← (readPort portText).mapError fun e => ("invalid port", some e)
    if h.startsWith "/" then pure (h, port, false)
    else
      let tls ← (firstUsesTls s).mapError fun e => ("failed to configure TLS", some e)
      pure (h, port, tls)

def sessionKinds : List String := ["read-write", "read-only", "primary", "standby", "prefer-standby", "any"]

def queryModes : List String := ["cache_statement", "cache_describe", "describe_exec", "exec", "simple_protocol"]

def checkCacheSize (params : Settings) (name : String) : Except String Unit :=
  match params.get? name with
  | none => .ok ()
  | some v => match Number.parseIntIn (-(Nat.pow 2 31)) (Nat.pow 2 31 - 1) v with
    | .ok _ => .ok ()
    | .error e => .error ("cannot parse " ++ name ++ ": " ++ e.message "ParseInt" v)

/-- How a postgres client reaches the database of a connection. -/
def Config.postgresTarget (c : Config) : Except Fault PostgresTarget := do
  let failure := fun (what : String) (why : Option String) =>
    Fault.plain ("cannot parse `" ++ c.postgresUrl "xxxxx" ++ "`: " ++ what ++
      match why with
      | some e => " (" ++ e ++ ")"
      | none => "")
  if let some bad := hostFault (c.hostPort 5432) then
    throw (.plain ("cannot parse `" ++ redactText (c.postgresUrl c.password) ++
      "`: failed to parse as URL (invalid URL escape " ++ Text.quote bad ++ ")"))
  let s ← (c.postgresSettings).mapError fun e => failure "failed to parse as URL" (some e)
  let timeout ← match s.get? "connect_timeout" with
    | none => pure ⟨0⟩
    | some t => (readTimeout t).mapError fun e => failure "invalid connect_timeout" (some e)
  let params : Settings := s.filter fun (k, _) => !clientSettings.contains k
  let attempts ← (hostAttempts s).mapError fun (what, why) => failure what why
  let tsa := s.getD "target_session_attrs"
  unless sessionKinds.contains tsa do throw (failure ("unknown target_session_attrs value: " ++ tsa) none)
  (checkCacheSize params "statement_cache_capacity").mapError Fault.plain
  (checkCacheSize params "description_cache_capacity").mapError Fault.plain
  if let some m := Settings.get? params "default_query_exec_mode" then
    unless queryModes.contains m do throw (Fault.plain ("invalid default_query_exec_mode: " ++ m))
  let params := params.filter fun (k, _) =>
    !(["statement_cache_capacity", "description_cache_capacity", "default_query_exec_mode"].contains k)
  let (host, port, tls) := attempts.headD ("", 0, false)
  pure { host, port, database := s.getD "database", user := s.getD "user",
         password := s.getD "password", tls, connectTimeout := timeout, runtimeParams := params }

/-- The failure of a client that does not get through to its server: the target, the stage
that failed (`dial error`, `server error`) and why. -/
def PostgresTarget.connectFailure (t : PostgresTarget) (stage why : String) : Fault :=
  .plain ("failed to connect to `host=" ++ t.host ++ " user=" ++ t.user ++ " database=" ++ t.database ++
    "`: " ++ stage ++ " (" ++ why ++ ")")

/-- Why a dial to a target with no server behind it fails: a socket directory has no socket
file, and no network host is reachable. -/
def PostgresTarget.dialFailure (t : PostgresTarget) : String :=
  if t.host.startsWith "/" then
    "dial unix " ++ t.host ++ "/.s.PGSQL." ++ toString t.port ++ ": connect: no such file or directory"
  else unreachable (joinHostPort t.host (toString t.port))

end RowGate.Connection
