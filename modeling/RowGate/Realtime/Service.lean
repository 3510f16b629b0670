import RowGate.Engine.Read
import RowGate.Realtime.Mode
import RowGate.Realtime.Trigger
import RowGate.Cache.Key
/-!
# Change subscriptions

A subscription checks a page again and again and sends an event when its checksum changes, to a
feed of at most `buffer` events; native delivery uses database notifications.
-/

namespace RowGate.Realtime

open Query Catalog Engine

/-- A change of a watched page. -/
structure Event where
  subscription : String
  entity : String
  /-- The checksum of the page, in lower-case hex. -/
  checksum : String
  total : Int
  data : List Entries
deriving Repr, Inhabited

/-- What a subscriber reads: the events queued, then the end. -/
structure Feed where
  events : List Event := []
  closed : Bool := false
  /-- Whether the end has been read. -/
  ended : Bool := false
deriving Repr, Inhabited

/-- A watch on a list request. -/
structure Subscription where
  id : String
  client : String
  entity : String
  /-- `poll`, `native`, or a mode of another name, which is never scheduled. -/
  mode : String
  request : Request
  params : ListParams
  /-- The checksum of the last page seen. -/
  last : Option UInt64 := none
  /-- The listening session's key and the table key that route notifications here. -/
  route : Option (String × String) := none
deriving Repr, Inhabited

/-- A session listening for the notifications of one database, and where they go: pairs of
a table key and a subscription. -/
structure Hub where
  key : String
  session : Nat
  routes : List (String × String) := []
deriving Repr, Inhabited

/-- The subscriptions of a gateway. -/
structure Service where
  buffer : Nat := 16
  /-- The live subscriptions, in the order they were made. -/
  subscriptions : List Subscription := []
  /-- The feed of every subscription ever made, in the same order. -/
  feeds : List (String × Feed) := []
  hubs : List Hub := []
  closed : Bool := false
  /-- The number of subscriptions made. -/
  made : Nat := 0
  /-- The ids of the live subscriptions of each client that has some. -/
  byClient : List (String × List String) := []
deriving Repr, Inhabited

/-- Files a subscription under its client in an index of ids by client. -/
def fileUnder (index : List (String × List String)) (client id : String) : List (String × List String) :=
  if index.any (·.1 == client) then index.map fun (c, ids) => if c == client then (c, ids ++ [id]) else (c, ids)
  else index ++ [(client, [id])]

/-- Takes a subscription from under its client; a client left with no id leaves the index. -/
def takeFrom (index : List (String × List String)) (client id : String) : List (String × List String) :=
  (index.map fun (c, ids) => if c == client then (c, ids.filter (· != id)) else (c, ids)).filter
    fun (c, ids) => !(c == client && ids.isEmpty)

def pageChecksum (env : Envelope) : Except Json.WriteError UInt64 :=
  Cache.checksum (.ofPairs [("data", .list (env.data.map .obj)), ("total", .int64 env.total)])

/-- The change event of a subscription's page with its checksum. -/
def Subscription.change (sub : Subscription) (env : Envelope) (sum : UInt64) : Event :=
  { subscription := sub.id, entity := sub.entity, checksum := Hash.hexText sum.toNat
    total := env.total, data := env.data }

namespace Service

def new (buffer : Int) : Service := { buffer := if buffer ≤ 0 then 16 else buffer.toNat }

def updateFeed (s : Service) (id : String) (f : Feed → Feed) : Service :=
  { s with feeds := s.feeds.map fun (k, x) => if k == id then (k, f x) else (k, x) }

/-- Queues an event unless the feed is closed or full. -/
def send (s : Service) (ev : Event) : Service :=
  s.updateFeed ev.subscription fun f =>
    if f.closed || s.buffer ≤ f.events.length then f else { f with events := f.events ++ [ev] }

def setLast (s : Service) (id : String) (sum : UInt64) : Service :=
  { s with subscriptions := s.subscriptions.map fun x => if x.id == id then { x with last := some sum } else x }

def addRoute (s : Service) (key table id : String) : Service :=
  { s with hubs := s.hubs.map fun h => if h.key == key then { h with routes := h.routes ++ [(table, id)] } else h }

/-- Removes a subscription's route; a session left without routes stops listening. -/
def dropRoute (s : Service) (sub : Subscription) : Service :=
  match sub.route with
  | none => s
  | some (key, table) =>
    let hubs := s.hubs.map fun h =>
      if h.key == key then { h with routes := h.routes.filter (· != (table, sub.id)) } else h
    { s with hubs := hubs.filter fun h => !(h.key == key && h.routes.isEmpty) }

/-- Links a new subscription: it becomes live, filed under its client, with an empty feed. -/
def link (s : Service) (sub : Subscription) : Service :=
  { s with subscriptions := s.subscriptions ++ [sub], feeds := s.feeds ++ [(sub.id, {})]
           byClient := fileUnder s.byClient sub.client sub.id, made := s.made + 1 }

/-- Unlinks a subscription: the live one of that id, if any, and the service without it. -/
def remove (s : Service) (id : String) : Option Subscription × Service :=
  match s.subscriptions.find? (·.id == id) with
  | none => (none, s)
  | some sub => (some sub, { s with subscriptions := s.subscriptions.filter (·.id != id)
                                    byClient := takeFrom s.byClient sub.client id })

/-- Unlinks subscriptions one after another: those that were live, in order, and the service
after. -/
def removeAll (s : Service) : List String → List Subscription × Service
  | [] => ([], s)
  | id :: ids =>
    let first := s.remove id
    let rest := first.2.removeAll ids
    (first.1.toList ++ rest.1, rest.2)

def idsOf (s : Service) (client : String) : List String :=
  ((s.byClient.find? (·.1 == client)).map (·.2)).getD []

def release (s : Service) (sub : Subscription) : Service :=
  (s.dropRoute sub).updateFeed sub.id fun f => { f with closed := true }

/-- Ends a subscription; whether it was live. -/
def unsubscribe (s : Service) (id : String) : Bool × Service :=
  match s.remove id with
  | (none, s) => (false, s)
  | (some sub, s) => (true, s.release sub)

/-- Ends every subscription of a client; how many there were. -/
def disconnect (s : Service) (client : String) : Nat × Service :=
  let (gone, s) := s.removeAll (s.idsOf client)
  (gone.length, gone.foldl release s)

def size (s : Service) : Nat := s.subscriptions.length

/-- Ends every subscription and every listening session, and takes no new subscription. -/
def shutdown (s : Service) : Service :=
  if s.closed then s
  else
    let (gone, s') := { s with closed := true }.removeAll (s.subscriptions.map Subscription.id)
    { gone.foldl release s' with hubs := [] }

/-- What a check of a live subscription makes of its listing: the change it offers to the
subscriber's feed, if any, and the service after. A failed listing or a page without a checksum
changes nothing. The first checksum only becomes the baseline; a later one that differs from the
baseline replaces it and offers the page, which the feed queues unless it is closed or full. -/
def observe (s : Service) (sub : Subscription) :
    Except Fault (Envelope × Handler) → Option Event × Service
  | .error _ => (none, s)
  | .ok (env, _) =>
    match pageChecksum env with
    | .error _ => (none, s)
    | .ok sum =>
      match sub.last with
      | none => (none, s.setLast sub.id sum)
      | some last =>
        if last == sum then (none, s)
        else (some (sub.change env sum), (s.setLast sub.id sum).send (sub.change env sum))

/-- What each feed has to read: its queued events, and whether its end comes now. -/
def drain (s : Service) : List (String × List Event × Bool) × Service :=
  (s.feeds.map fun (k, f) => (k, f.events, f.closed && !f.ended),
    { s with feeds := s.feeds.map fun (k, f) => (k, { f with events := [], ended := f.closed }) })

end Service

section

variable {m : Type → Type} [Monad m] {ε : Type} (b : Backend m ε) (e : Handler)

/-- Checks a live subscription once. -/
def check (s : Service) (id : String) : m Service := do
  match s.subscriptions.find? (·.id == id) with
  | none => pure s
  | some sub => pure (s.observe sub (← (e.list b sub.request sub.entity sub.params).run)).2

def checkAll (s : Service) : m Service :=
  s.subscriptions.foldlM (fun s sub => check b e s sub.id) s

def installTrigger (cfg : Connection.Config) (t : TableRef) : ExceptT Fault m Unit := do
  let session ← explainFailure "connect for trigger install" (b.openSession cfg)
  let r ← caught ((triggerStatements t).forM fun stmt =>
    explainFailure ("install change trigger on " ++ payload t) (b.execute session stmt))
  b.closeSession session
  match r with
  | .ok _ => pure ()
  | .error err => throw err

/-- Routes a table's notifications to a subscription: installs the trigger, and opens the
database's listening session unless one is open. -/
def register (s : Service) (cfg : Connection.Config) (t : TableRef) (id : String) :
    ExceptT Fault m (String × String × Service) := do
  installTrigger b cfg t
  let key := cfg.fingerprint
  let s ← match s.hubs.find? (·.key == key) with
    | some _ => pure s
    | none => do
      let session ← explainFailure "connect listener" (b.openSession cfg)
      match ← caught (b.execute session ("LISTEN " ++ channel)) with
      | .ok _ => pure { s with hubs := s.hubs ++ [{ key, session }] }
      | .error err =>
        b.closeSession session
        throw (.wrapped ("listen on " ++ channel) err)
  pure (key, payload t, s.addRoute key (payload t) id)

def startNative (directory : Option (Backend m ε)) (s : Service) (sub : Subscription) :
    ExceptT Fault m (Option (String × String) × Service) := do
  let some d := directory | throw (.plain "native mode is not configured")
  let entity ← match ← explainFailure "look up entity" (d.findEntity sub.request.serviceId sub.entity) with
    | some x => pure x
    | none => throw (.wrapped "look up entity" (.signal .recordNotFound))
  let svc ← d.resolve sub.request.serviceId sub.request.environment
  let kind ← Kind.parse svc.connection.type
  let table : TableRef := ⟨entity.schemaName, entity.name⟩
  match kind with
  | .postgres =>
    let (key, tk, s) ← register d s svc.connection table sub.id
    pure (some (key, tk), s)
  | .mongodb =>
    let _ ← d.acquire svc.connection
    throw (.plain ("executor for " ++ kind.name ++ " has no change streams"))
  | k => throw (.plain (k.name ++ " has no native change feed"))

/-- Subscribes a client to a list request, then records the page's first checksum. An empty
mode polls. -/
def subscribe (directory : Option (Backend m ε)) (s : Service) (client : String) (rq : Request)
    (entity : String) (params : ListParams) (mode : String) : ExceptT Fault m (Subscription × Service) := do
  let params := { params with bypass := true }
  let mode := if mode.isEmpty then Mode.poll.name else mode
  let _ ← e.list b rq entity params
  let sub : Subscription :=
    { id := "sub-" ++ toString (s.made + 1), client, entity, mode, request := rq, params }
  let (sub, s) ← if mode == Mode.native.name then
      match ← caught (startNative directory s sub) with
      | .ok (route, s) => pure ({ sub with route }, s)
      | .error _ => pure ({ sub with mode := Mode.poll.name }, s)
    else pure (sub, s)
  if s.closed then throw (.plain "realtime service is shut down")
  let s := s.link sub
  pure (sub, ← ExceptT.lift (check b e s sub.id))

/-- Hands a notification that reached a listening session to the subscriptions routed to its
table, each checked once. -/
def deliver (s : Service) (session : Nat) (table : String) : m Service :=
  match s.hubs.find? (·.session == session) with
  | none => pure s
  | some h => (h.routes.filter (·.1 == table)).foldlM (fun s (_, id) => check b e s id) s

end

end RowGate.Realtime
