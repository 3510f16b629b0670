import RowGate.Text.Blank
import RowGate.Text.Case
/-!
# Delivery modes

A subscription learns of changes either by polling its query on a timer or natively, by the
database's own change notifications. The mode is read from text that, trimmed, equals `native`
up to case; anything else polls.
-/

namespace RowGate.Realtime

/-- How a subscription learns of changes. -/
inductive Mode where
  | poll
  | native
deriving DecidableEq, Repr, Inhabited

namespace Mode

/-- The name of a mode. -/
def name : Mode → String
  | poll => "poll"
  | native => "native"

def ofText (s : String) : Mode :=
  if (Text.trim s).equalFold "native" then native else poll

end Mode

end RowGate.Realtime
