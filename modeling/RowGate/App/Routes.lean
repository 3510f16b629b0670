import RowGate.App.World
import RowGate.Catalog.Admin
import RowGate.Http.Message
import RowGate.Rest.Param
/-!
# The HTTP surface

The routes of the application: reads and change streams under `/api/rest/:service/:entity`,
administration under `/api/services/:service`, with the caller in gateway headers and failures
answered as `{"error": {"code", "message"}}`.
-/

namespace RowGate.App

open Catalog Engine

def Frame.ofValue (event : String) (data : Value) : Frame :=
  ⟨event, (Json.write data).toOption.getD "null"⟩

def Frame.text (f : Frame) : String := "event:" ++ f.event ++ "\ndata:" ++ f.data ++ "\n\n"

/-- The data of a change event sent at an instant. -/
def changeValue (ev : Realtime.Event) (at_ : Instant) : Value :=
  .ofPairs [("subscriptionId", .str ev.subscription), ("entity", .str ev.entity),
    ("checksum", .str ev.checksum), ("total", .int64 ev.total), ("data", .list (ev.data.map .obj)),
    ("at", .time at_)]

/-- The application's routes. -/
inductive Route where
  | list (service entity : String)
  | subscribe (service entity : String)
  | record (service entity id : String)
  | tables (service : String)
  | entities (service : String)
  | expose (service : String)
  | revoke (service id : String)
  | fieldPolicy (service id : String)
  | rowPolicy (service id : String)
  | policies (service id : String)
deriving Repr

namespace Route

def ofSegments (method : String) (segments : List String) : Option Route :=
  let given := fun (params : List String) (r : Route) => if params.all (· != "") then some r else none
  match method, segments with
  | "GET", ["api", "rest", s, e] => given [s, e] (.list s e)
  | "GET", ["api", "rest", s, e, "subscribe"] => given [s, e] (.subscribe s e)
  | "GET", ["api", "rest", s, e, id] => given [s, e, id] (.record s e id)
  | "GET", ["api", "services", s, "tables"] => given [s] (.tables s)
  | "GET", ["api", "services", s, "entities"] => given [s] (.entities s)
  | "POST", ["api", "services", s, "entities"] => given [s] (.expose s)
  | "DELETE", ["api", "services", s, "entities", id] => given [s, id] (.revoke s id)
  | "PUT", ["api", "services", s, "entities", id, "field-policy"] => given [s, id] (.fieldPolicy s id)
  | "PUT", ["api", "services", s, "entities", id, "row-policy"] => given [s, id] (.rowPolicy s id)
  | "GET", ["api", "services", s, "entities", id, "policies"] => given [s, id] (.policies s id)
  | _, _ => none

def isLimited : Route → Bool
  | .list .. | .subscribe .. | .record .. => true
  | _ => false

end Route

def callerOf (r : Http.Request) (serviceId : String) : Engine.Request :=
  { serviceId, environment := r.header "X-Environment"
    caller := { organizationId := r.header "X-Organization-ID", roleId := r.header "X-Role-ID"
                roleName := r.header "X-Role-Name", userId := r.header "X-User-ID"
                email := r.header "X-User-Email" } }

def queryInt (raw : String) : Except Fault (Option Int) := (Rest.queryInt raw).mapError Fault.plain

/-- The list parameters of a request. The page size is `pageSize`, or `limit` when that is
empty, and a size below one is one. -/
def listParams (r : Http.Request) : Except Fault ListParams := do
  let page ← queryInt (r.param "page")
  let raw := if r.param "pageSize" == "" then r.param "limit" else r.param "pageSize"
  let size ← queryInt raw
  pure { fields := r.param "fields", sort := r.param "sort", filter := r.param "filter"
         cache := Rest.queryBool (r.param "cache"), page := page.getD 0
         pageSize := (size.map fun n => if n < 1 then 1 else n).getD 0 }

def parseId (raw : String) : Except Fault Nat := (Rest.parseId raw).mapError Fault.plain

/-- The answer to a failure. -/
def failure (f : Fault) : Http.Response :=
  .json f.code.httpStatus (.ofPairs [("error", .ofPairs [("code", .str f.code.name),
    ("message", .str f.publicMessage)])])

def badRequest (f : Fault) : Http.Response := failure (.wrap .validation f ("invalid request: " ++ f.text))

def notFound : Http.Response :=
  { status := 404, headers := [("Content-Type", "text/plain")], body := "404 page not found" }

def dataBody (v : Value) : Value := .ofPairs [("data", v)]

/-- Answers with a status and the value an action gives, or with its failure. -/
def respond (status : Nat) (x : Run Value) : StateM World Http.Response := do
  match ← x.run with
  | .ok v => pure (.json status v)
  | .error f => pure (failure f)

def withEngine (f : Handler → Run (α × Handler)) : Run α := do
  let (a, e) ← f (← get).engine
  modify fun w => { w with engine := e }
  pure a

def openStream (r : Http.Request) (service entity : String) : StateM World Http.Response := do
  match listParams r, queryInt (r.param "interval") with
  | .error f, _ | _, .error f => pure (badRequest f)
  | .ok params, .ok _ =>
    let client := if (r.header "X-Client-ID").isEmpty then r.clientIp else r.header "X-Client-ID"
    let w ← get
    let mode := (Realtime.Mode.ofText (r.param "mode")).name
    match ← (Realtime.subscribe backend w.engine (some backend) w.realtime client (callerOf r service) entity
        params mode).run with
    | .error f => pure (failure f)
    | .ok (sub, s) =>
      let first := Frame.ofValue "subscribed" (.ofPairs [("subscriptionId", .str sub.id), ("mode", .str sub.mode)])
      modify fun w => { w with realtime := s
                               streams := w.streams ++ [{ subscription := sub.id, client, unread := [first] }] }
      pure { status := 200, body := first.text
             headers := [("Content-Type", "text/event-stream"), ("Cache-Control", "no-cache"),
                         ("X-Accel-Buffering", "no")] }

/-- Answers a request on a route. -/
def serve (r : Http.Request) : Route → StateM World Http.Response
  | .list s e =>
    match listParams r with
    | .error f => pure (badRequest f)
    | .ok p => respond 200 do
      let env ← withEngine (·.list backend (callerOf r s) e p)
      pure env.toValue
  | .subscribe s e => openStream r s e
  | .record s e id => respond 200 do
    let row ← withEngine (·.byId backend (callerOf r s) e id { fields := r.param "fields" })
    pure (dataBody (.obj row))
  | .tables s => respond 200 do
    let svc ← resolveService s (r.header "X-Environment")
    let w ← get
    let found ← discover backend w.settings.isSystemSchema s svc.connection
    pure (dataBody (.list (found.map Discovered.toValue)))
  | .entities s => respond 200 do
    pure (dataBody (.list ((← listExposed backend s).map Entity.summary)))
  | .expose s =>
    match ExposeRequest.ofBody s (r.header "X-Organization-ID") (r.header "X-Environment") (r.body.getD "") with
    | .error e => pure (badRequest (.plain e))
    | .ok req => respond 201 do pure (dataBody (← expose backend req).summary)
  | .revoke s id =>
    match parseId id with
    | .error f => pure (badRequest f)
    | .ok n => do
      match ← (revoke backend s n).run with
      | .ok () => pure { status := 204 }
      | .error f => pure (failure f)
  | .fieldPolicy s id =>
    match parseId id, FieldPolicyRequest.ofBody (r.body.getD "") with
    | .error f, _ => pure (badRequest f)
    | _, .error e => pure (badRequest (.plain e))
    | .ok n, .ok req => respond 200 do pure (dataBody (fieldPolicyValue (← setFieldPolicy backend s n req)))
  | .rowPolicy s id =>
    match parseId id, RowPolicyRequest.ofBody (r.header "X-Environment") (r.body.getD "") with
    | .error f, _ => pure (badRequest f)
    | _, .error e => pure (badRequest (.plain e))
    | .ok n, .ok req => respond 200 do pure (dataBody (rowPolicyValue (← setRowPolicy backend s n req)))
  | .policies s id =>
    match parseId id with
    | .error f => pure (badRequest f)
    | .ok n => respond 200 do pure (dataBody ((← policiesOf backend s n).toValue false))

def requestMillis : Nat := 100

/-- Answers a request: the clock moves on, a limited route first takes a token of its
client, and the route answers. -/
def handle (r : Http.Request) : StateM World Http.Response := do
  modify fun w => { w with clock := w.clock + requestMillis }
  match Route.ofSegments r.method r.segments with
  | none => pure notFound
  | some route =>
    if !route.isLimited then serve r route
    else
      let w ← get
      let client := if (r.header "X-Client-ID").isEmpty then r.clientIp else r.header "X-Client-ID"
      let (taken, limiter) := w.limiter.reserve client w.clock
      set { w with limiter }
      match taken with
      | .refused wait =>
        pure ((failure (.new .rateLimited "rate limit exceeded")).withHeader "Retry-After" (toString wait))
      | .unlimited => serve r route
      | .granted left burst =>
        let resp ← serve r route
        pure ((resp.withHeader "X-RateLimit-Limit" (toString burst)).withHeader "X-RateLimit-Remaining"
          (toString left))

end RowGate.App
