import RowGate.Fault
import RowGate.Text.Case
import RowGate.Text.Search
/-!
# Stale connections

A failure is stale when it looks like a dead pooled connection: never for an expired deadline
or a cancellation, always for a broken connection, else by known signs in its text.
-/

namespace RowGate.Fault

def staleSigns : List String :=
  ["connection closed", "conn closed", "bad connection", "broken pipe", "connection reset",
    "server closed the connection", "connection is shut down", "invalid connection",
    "procedure not found", "use of closed network connection"]

/-- Whether a failure comes from a dead pooled connection. -/
def isStale (f : Fault) : Bool :=
  if f.holds .deadlineExceeded || f.holds .canceled then false
  else if [Signal.badConnection, .connectionDone, .invalidConnection, .unexpectedEnd, .network].any
    f.holds then true
  else
    let text := f.text.lowerCase
    staleSigns.any fun sign => Text.occurs sign text

end RowGate.Fault
