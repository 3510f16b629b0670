import RowGate.Value.Basic
import RowGate.Number.Parse
/-!
# Reading members of objects

Settings, request bodies and stored rows arrive as objects. Their members are read with a
default: a member that is missing, `null` or of another type gives the default. Integers are
read from number literals that fit 64 bits.
-/

namespace RowGate.Value

/-- The member at a key; a `null` member counts as missing. -/
def member? (v : Value) (key : String) : Option Value :=
  match v.field? key with
  | some .null => none
  | w => w

/-- The text at a key. -/
def textAt (v : Value) (key : String) (d : String := "") : String :=
  match v.member? key with
  | some (.str s) => s
  | _ => d

/-- The truth value at a key. -/
def flagAt (v : Value) (key : String) (d : Bool := false) : Bool :=
  match v.member? key with
  | some (.bool b) => b
  | _ => d

/-- The 64-bit integer at a key. -/
def intAt (v : Value) (key : String) (d : Int := 0) : Int :=
  match v.member? key with
  | some (.number l) => (Number.parseInt64 l).toOption.getD d
  | some (.int _ n) => n
  | _ => d

/-- The items of the list at a key. -/
def itemsAt (v : Value) (key : String) : List Value :=
  match v.member? key with
  | some (.list xs) => xs
  | _ => []

/-- The texts of the list at a key, skipping what is not text. -/
def textsAt (v : Value) (key : String) : List String :=
  (v.itemsAt key).filterMap fun w => match w with
    | .str s => some s
    | _ => none

def textsAt? (v : Value) (key : String) : Option (List String) :=
  (v.member? key).map fun _ => v.textsAt key

/-- The text members of the object at a key, or none when it is no object. -/
def textPairsAt? (v : Value) (key : String) : Option (List (String × String)) :=
  match v.member? key with
  | some (.obj es) => some (es.filterMap fun (k, w) => match w with
    | .str s => some (k, s)
    | _ => none)
  | _ => none

/-- The object at a key, or the empty object. -/
def objectAt (v : Value) (key : String) : Value :=
  match v.member? key with
  | some (.obj es) => .obj es
  | _ => .obj []

end RowGate.Value
