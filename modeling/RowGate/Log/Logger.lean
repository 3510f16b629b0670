import RowGate.Log.Level
import RowGate.Value.Display
/-!
# Loggers

A logger writes `[LEVEL] message` lines at or above its level, prefixed by its fields in key order.
-/

namespace RowGate.Log

/-- A logger and the text it has written. -/
structure Logger where
  level : Level
  output : String := ""
deriving Repr, Inhabited

namespace Logger

/-- Writes a message at a level, when the level is high enough. -/
def write (l : Logger) (level : Level) (message : String) : Logger :=
  if l.level.rank ≤ level.rank then
    let line := "[" ++ level.name ++ "] " ++ message
    { l with output := l.output ++ line ++ (if message.endsWith "\n" then "" else "\n") }
  else l

def fieldsPrefix (fields : Entries) : String :=
  String.join ((fields.mergeSort fun a b => a.1 ≤ b.1).map fun (k, v) => k ++ "=" ++ v.display ++ " ")

def writeWith (l : Logger) (fields : Entries) (level : Level) (message : String) : Logger :=
  l.write level (fieldsPrefix fields ++ message)

end Logger

end RowGate.Log
