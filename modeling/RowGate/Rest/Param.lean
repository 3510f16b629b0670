import RowGate.Number.Parse
import RowGate.Text.Blank
/-!
# Request parameters

Path and query parameters arrive as text. An id is a positive decimal integer below `2 ^ 64`
after trimming blanks; an integer parameter is absent when it is blank and otherwise must be
a signed 64-bit decimal integer; a flag is set only by a true spelling of a truth value.
-/

namespace RowGate.Rest

/-- Reads a positive id; the failure quotes the text as given. -/
def parseId (raw : String) : Except String Nat :=
  match Number.parseUInt64 (Text.trim raw) with
  | .ok n => if n == 0 then .error ("invalid id " ++ Text.quote raw) else .ok n
  | .error _ => .error ("invalid id " ++ Text.quote raw)

/-- Reads an optional integer: `none` when blank; the failure quotes the trimmed text. -/
def queryInt (raw : String) : Except String (Option Int) :=
  let t := Text.trim raw
  if t.isEmpty then .ok none
  else match Number.parseInt64 t with
    | .ok n => .ok (some n)
    | .error _ => .error ("invalid integer " ++ Text.quote t)

/-- Reads an optional flag; anything but a true spelling is false. -/
def queryBool (raw : String) : Bool :=
  match Number.parseBool (Text.trim raw) with
  | .ok b => b
  | .error _ => false

end RowGate.Rest
