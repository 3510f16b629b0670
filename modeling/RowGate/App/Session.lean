import RowGate.App.Routes
/-!
# Sessions with the running application

A session drives the application one step at a time: requests, statements, subscriptions and
their checks, stream reads, sizes and shutdown.
-/

namespace RowGate.App

open Catalog

/-- How a stream is ended. -/
inductive Ending where
  /-- The client goes away. -/
  | cancel
  /-- Every subscription of the stream's client ends. -/
  | disconnect
  /-- A subscription, named by its id, ends. -/
  | unsubscribe (id : String)
deriving Repr

/-- A call on the catalog's stores. -/
inductive StoreCall where
  | connection (service environment : String)
  | connections (service : String)
  | entity (service : String) (id : Nat)
  | findEntity (service ref : String)
  | entities (service : String)
  | exposes (service name aliasName : String)
  | fieldPolicies (entity : Nat)
  | rowPolicies (entity : Nat)
  | fieldPoliciesFor (entity : Nat) (role : String)
  | rowPoliciesFor (entity : Nat) (role : String)
  /-- Deletes an entity in a transaction that then rolls back when `fail` holds. -/
  | deleteInTransaction (id : Nat) (fail : Bool)
  /-- Begins a transaction and rolls it back. -/
  | beginRollback
deriving Repr

/-- A step of a session. -/
inductive Step where
  | http (r : Http.Request)
  | sql (database : String) (statements : List String)
  | catalogSql (statement : String)
  | subscribe (r : Http.Request)
  | tick
  | events
  | finish (stream : Int) (how : Ending)
  | sizes
  | store (call : StoreCall)
  | shutdown
deriving Inhabited

/-- What a step answers. -/
inductive Answer where
  | response (r : Http.Response)
  | done
  | failed (f : Fault)
  /-- A stream opened, with its first frames. -/
  | opened (stream : Nat) (frames : List Frame)
  /-- The new frames of every stream. -/
  | frames (perStream : List (List Frame))
  /-- A stream after its end was asked for: whether it ended and its new frames, with how
  many subscriptions a disconnection ended or whether an unsubscription found its own. -/
  | closed (ended : Bool) (frames : List Frame) (dropped : Option Nat) (removed : Option Bool)
  /-- No stream has that number. -/
  | noStream
  | sizes (subscriptions pools : Nat)
  | value (v : Value)
  /-- Shut down; whether each stream ended. -/
  | stopped (ended : List Bool)
deriving Inhabited

/-- A failure, or the value of a stored row that must exist. -/
def found (x : Option α) (f : α → Value) : Run Value :=
  match x with
  | some a => pure (f a)
  | none => throw (.signal .recordNotFound)

def callStore : StoreCall → Run Value
  | .connection svc env => do found (← readCatalog (·.connection? svc env)) ServiceConnection.toValue
  | .connections svc => do pure (.list ((← readCatalog (·.connectionsOf svc)).map ServiceConnection.toValue))
  | .entity svc id => do found (← readCatalog (·.entity? svc id)) Entity.toValue
  | .findEntity svc ref => do found (← readCatalog (·.entityByRef? svc ref)) Entity.toValue
  | .entities svc => do pure (.list ((← readCatalog (·.entitiesOf svc)).map Entity.toValue))
  | .exposes svc name aliasName => do pure (.bool (← readCatalog (·.exposes svc name aliasName)))
  | .fieldPolicies e => do pure (.list ((← readCatalog (·.fieldPoliciesOf e)).map fieldPolicyValue))
  | .rowPolicies e => do pure (.list ((← readCatalog (·.rowPoliciesOf e)).map rowPolicyValue))
  | .fieldPoliciesFor e role => do
    pure (.list ((← readCatalog (·.fieldPoliciesFor e role)).map fieldPolicyValue))
  | .rowPoliciesFor e role => do pure (.list ((← readCatalog (·.rowPoliciesFor e role)).map rowPolicyValue))
  | .deleteInTransaction id fail => do
    let c ← liftResult (← get).catalog
    let c ← liftResult (c.deleteEntity id)
    if fail then throw (.plain "rolled back on purpose")
    modify (·.withServer c.server)
    pure (.str "committed")
  | .beginRollback => pure (.str "rolled back")

/-- Hands the events in the subscriptions' feeds to their streams, stamped now; a feed that
ended ends its stream. -/
def deliver : StateM World Unit := modify fun w =>
  let (feeds, realtime) := w.realtime.drain
  { w with realtime, streams := w.streams.map fun (st : Stream) =>
      match feeds.find? (·.1 == st.subscription) with
      | some (_, evs, ending) =>
        { st with unread := st.unread ++ evs.map fun ev => Frame.ofValue "change" (changeValue ev w.now)
                  ended := st.ended || ending }
      | none => st }

/-- The unread frames of every stream, which become read. -/
def readAll : StateM World (List (List Frame)) := do
  let w ← get
  set { w with streams := w.streams.map fun (st : Stream) => { st with unread := [] } }
  pure (w.streams.map (·.unread))

/-- Answers a step. -/
def World.step : Step → StateM World Answer
  | .http r => do pure (.response (← handle r))
  | .sql database statements => do
    let w ← get
    match w.network.relational with
    | none => pure (.failed Executor.Live.closedFault)
    | some srv =>
      let (srv, failure) := runStatements srv database statements
      set (w.withServer srv)
      pure ((failure.map Answer.failed).getD .done)
  | .catalogSql statement => do
    let w ← get
    match w.catalog with
    | .error f => pure (.failed f)
    | .ok c =>
      let (srv, failure) := runStatements c.server c.database [statement]
      set (w.withServer srv)
      pure ((failure.map Answer.failed).getD .done)
  | .subscribe r => do
    let before := (← get).streams.length
    let resp ← handle r
    let w ← get
    match w.streams[before]? with
    | some st =>
      set { w with streams := w.streams.set before { st with unread := [] } }
      pure (.opened before st.unread)
    | none => pure (.response resp)
  | .tick => do
    let w ← get
    let s ← Realtime.checkAll backend w.engine w.realtime
    modify fun w => { w with realtime := s }
    deliver
    pure (.frames (← readAll))
  | .events => do
    deliver
    pure (.frames (← readAll))
  | .finish i how => do
    deliver
    let w ← get
    let k := i.toNat
    match if i < 0 then none else w.streams[k]? with
    | none => pure .noStream
    | some st =>
      let (dropped, removed, w) := match how with
        | .cancel =>
          let (_, s) := w.realtime.unsubscribe st.subscription
          (none, none, { w with realtime := s
                                streams := w.streams.set k { st with ended := true } })
        | .disconnect =>
          let (n, s) := w.realtime.disconnect st.client
          (some n, none, { w with realtime := s })
        | .unsubscribe id =>
          let (found, s) := w.realtime.unsubscribe id
          (none, some found, { w with realtime := s })
      set w
      deliver
      let w ← get
      let st := w.streams.getD k st
      set { w with streams := w.streams.set k { st with unread := [] } }
      pure (.closed st.ended st.unread dropped removed)
  | .sizes => do
    let w ← get
    pure (.sizes w.realtime.size w.pools.size)
  | .store call => do
    match ← (callStore call).run with
    | .ok v => pure (.value v)
    | .error f => pure (.failed f)
  | .shutdown => do
    modify World.shutdown
    deliver
    pure (.stopped ((← get).streams.map (·.ended)))

def World.run (w : World) (steps : List Step) : List Answer :=
  (steps.foldlM (fun (acc : List Answer) st => do pure (acc ++ [← World.step st])) [] |>.run w).1

end RowGate.App
