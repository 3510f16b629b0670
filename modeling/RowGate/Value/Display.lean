import RowGate.Value.Basic
/-!
# Values as plain text

The plain text of a value as logs show it.
-/

namespace RowGate.Value

mutual

/-- The plain text of a value. -/
def display : Value → String
  | .null => "<nil>"
  | .bool b => if b then "true" else "false"
  | .str s => s
  | .int _ n => toString n
  | .float x => x.general
  | .float32 x => x.general
  | .number l => l
  | .bytes b => "[" ++ " ".intercalate (b.map fun x => toString x.toNat) ++ "]"
  | .objectId i => "ObjectID(\"" ++ i.hex ++ "\")"
  | .time t => t.rfc3339
  | .named n v => "\x7b" ++ n ++ " " ++ display v ++ "\x7d"
  | .list xs => "[" ++ " ".intercalate (displayList xs) ++ "]"
  | .strings xs => "[" ++ " ".intercalate xs ++ "]"
  | .obj es => "map[" ++ " ".intercalate (((displayEntries es).mergeSort fun a b => a.1 ≤ b.1).map
      fun (k, t) => k ++ ":" ++ t) ++ "]"

def displayList : List Value → List String
  | [] => []
  | v :: rest => display v :: displayList rest

def displayEntries : List (String × Value) → List (String × String)
  | [] => []
  | (k, v) :: rest => (k, display v) :: displayEntries rest

end

end RowGate.Value
