import RowGate.App.Routes
import RowGate.Http.Wire
/-!
# The server

The server answers what the gateway's routes answer, and a health check at `/healthz` that
reports the number of open pools. It starts with its catalog on a relational server of its own,
and answers the requests of a byte stream in order.
-/

namespace RowGate.App

def serveRequest (r : Http.Request) : StateM World Http.Response := do
  if r.method == "GET" && r.path == "/healthz" then
    modify fun w => { w with clock := w.clock + requestMillis }
    let w ← get
    pure (.json 200 (.ofPairs [("status", .str "ok"), ("pools", .int64 w.pools.size)]))
  else handle r

def World.serve (settings : Settings) : World := World.start settings default [] []

def World.answerStream (w : World) (input : List UInt8) : List String :=
  ((Http.Request.readAll input).mapM (fun r => do pure (← serveRequest r).render) |>.run w).1

end RowGate.App
