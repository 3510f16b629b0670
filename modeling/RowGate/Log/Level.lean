import RowGate.Text.Case
/-!
# Log levels

Levels are ranked `DEBUG 0`, `INFO 1`, `WARN 2`, `ERROR 3`, `FATAL 4`; a message is written when
its level is at least the logger's. A rank outside these is kept as it is and named `INFO`. A
level name is read in any case (`WARNING` too), and an unknown name reads as `INFO`.
-/

namespace RowGate.Log

/-- A severity, by rank. -/
structure Level where
  rank : Int
deriving DecidableEq, Repr, Inhabited

namespace Level

def debug : Level := ⟨0⟩
def info : Level := ⟨1⟩
def warn : Level := ⟨2⟩
def error : Level := ⟨3⟩
def fatal : Level := ⟨4⟩

/-- The upper-case name of a level. -/
def name (l : Level) : String :=
  match l.rank with
  | 0 => "DEBUG"
  | 2 => "WARN"
  | 3 => "ERROR"
  | 4 => "FATAL"
  | _ => "INFO"

/-- Reads a level name in any case. -/
def ofName (s : String) : Level :=
  match s.upperCase with
  | "DEBUG" => debug
  | "WARN" | "WARNING" => warn
  | "ERROR" => error
  | "FATAL" => fatal
  | _ => info

end Level

end RowGate.Log
