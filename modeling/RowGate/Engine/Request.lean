import RowGate.Value.Basic
import RowGate.Policy.Row
/-!
# Read requests

A read names a service, an environment and the caller, whose identity row policy templates
see; a page of the answer is an envelope of rows.
-/

namespace RowGate.Engine

/-- Who makes a request, as the gateway identified them. -/
structure Caller where
  organizationId : String := ""
  roleId : String := ""
  roleName : String := ""
  userId : String := ""
  email : String := ""
  /-- Extra fields of the user, reachable from templates as `user.<name>`. -/
  attributes : Entries := []
deriving Repr, Inhabited

/-- The scope of one request. -/
structure Request where
  serviceId : String
  environment : String := ""
  caller : Caller := {}
deriving Repr, Inhabited

/-- What row policy templates of a request see. -/
def Request.renderContext (r : Request) : Value :=
  let user := (r.caller.attributes.insert "id" (.str r.caller.userId)).insert "email" (.str r.caller.email)
  .ofPairs [("user", .obj user),
    ("organization", .ofPairs [("id", .str r.caller.organizationId)]),
    ("role", .ofPairs [("id", .str r.caller.roleId), ("name", .str r.caller.roleName)]),
    ("service", .ofPairs [("id", .str r.serviceId)]),
    ("environment", .str r.environment)]

/-- The raw parameters of a list or single-record request. -/
structure ListParams where
  fields : String := ""
  sort : String := ""
  filter : String := ""
  page : Int := 0
  /-- Zero means the configured default. -/
  pageSize : Int := 0
  /-- Opts this request into the response cache. -/
  cache : Bool := false
  /-- Skips response cache reads and writes. -/
  bypass : Bool := false
deriving Repr, Inhabited

/-- One page of a list answer. -/
structure Envelope where
  data : List Entries
  page : Int
  pageSize : Int
  total : Int
  hasNext : Bool
deriving Repr, Inhabited

/-- The JSON form of an envelope. -/
def Envelope.toValue (e : Envelope) : Value :=
  .ofPairs [("data", .list (e.data.map .obj)), ("page", .int64 e.page), ("pageSize", .int64 e.pageSize),
    ("total", .int64 e.total), ("hasNext", .bool e.hasNext)]

end RowGate.Engine
