import RowGate.Net.Url
import RowGate.Net.Ip
import RowGate.Json.Writer
/-!
# HTTP requests and responses

Requests with their path, query, headers and body, the client behind trusted proxies, and
responses with a status, headers and a body.
-/

namespace RowGate.Http

/-- An HTTP request. -/
structure Request where
  method : String := "GET"
  /-- The path, escapes read. -/
  path : String
  /-- The query's pairs, in order. -/
  query : List (String × String) := []
  headers : List (String × String) := []
  body : Option String := none
  /-- The address the request came from. -/
  remoteAddress : String := "192.0.2.1"
deriving Repr, Inhabited

namespace Request

/-- A request for a target: a path, then optionally `?` and a query. A path whose escapes do
not read is kept as written. -/
def ofTarget (method target : String) (headers : List (String × String)) (body : Option String) :
    Request :=
  let (path, query) := match target.splitOn "?" with
    | p :: rest => (p, "?".intercalate rest)
    | [] => (target, "")
  { method, path := (Net.unescape .path path).getD path, query := Net.parseQuery query, headers, body }

def header (r : Request) (name : String) : String :=
  ((r.headers.find? fun (k, _) => k.toLower == name.toLower).map (·.2)).getD ""

def param (r : Request) (key : String) : String :=
  ((r.query.find? (·.1 == key)).map (·.2)).getD ""

def forwardedBy (value : String) : Option String :=
  if value.isEmpty then none
  else
    let items := (value.splitOn ",").map String.trimAscii
    if items.all fun i => Net.isIpAddress i.copy then (items.head?.map (·.copy)) else none

/-- The address of the client that sent a request. -/
def clientIp (r : Request) : String :=
  ((forwardedBy (r.header "X-Forwarded-For")).orElse fun _ => forwardedBy (r.header "X-Real-IP")).getD
    r.remoteAddress

/-- The segments of the path between slashes, the leading one dropped. -/
def segments (r : Request) : List String :=
  match r.path.splitOn "/" with
  | "" :: rest => rest
  | parts => parts

end Request

/-- An HTTP response. -/
structure Response where
  status : Nat
  headers : List (String × String) := []
  body : String := ""
deriving Repr, Inhabited

def jsonType : String := "application/json; charset=utf-8"

namespace Response

def withHeader (r : Response) (name value : String) : Response :=
  { r with headers := (r.headers.filter (·.1 != name)) ++ [(name, value)] }

/-- A response whose body is the JSON text of a value; a value that has no JSON text gives an
empty failure. -/
def json (status : Nat) (body : Value) : Response :=
  match Json.write body with
  | .ok text => { status, headers := [("Content-Type", jsonType)], body := text }
  | .error _ => { status := 500 }

def header? (r : Response) (name : String) : Option String :=
  (r.headers.find? (·.1 == name)).map (·.2)

end Response

end RowGate.Http
