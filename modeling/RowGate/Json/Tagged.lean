import RowGate.Value.Basic
import RowGate.Number.Parse
import RowGate.Text.Base64
/-!
# Tagged JSON

Values JSON cannot tell apart (doubles, bytes, ids, instants, named arguments) written and read
as objects with a single tag key.
-/

namespace RowGate.Json

open Number

def numberValue (l : String) : Value :=
  let asFloat := match Binary64.parse l with
    | .ok x => Value.float x
    | .error _ => .str l
  if l.any (fun c => c == '.' || c == 'e' || c == 'E') then asFloat
  else match parseInt64 l with
    | .ok n => .int .int64 n
    | .error _ => asFloat

def textsOf (xs : List Value) : List String :=
  xs.filterMap fun v => match v with
    | .str s => some s
    | _ => none

mutual

/-- The tagged form of a value. -/
def tag : Value → Value
  | .float x => .ofPairs [("$float", .str x.general)]
  | .float32 x => .ofPairs [("$float32", .str x.general)]
  | .number l => .ofPairs [("$number", .str l)]
  | .bytes b => .ofPairs [("$bytes", .str (String.ofList (Text.base64Encode b)))]
  | .objectId i => .ofPairs [("$oid", .str i.hex)]
  | .time t => .ofPairs [("$time", .str t.rfc3339)]
  | .named n v => .ofPairs [("$named", .str n), ("value", tag v)]
  | .list xs => .list (tagList xs)
  | .strings xs => .list (xs.map Value.str)
  | .obj es => .obj (tagEntries es)
  | v => v

def tagList : List Value → List Value
  | [] => []
  | v :: rest => tag v :: tagList rest

def tagEntries : List (String × Value) → List (String × Value)
  | [] => []
  | (k, v) :: rest => (k, tag v) :: tagEntries rest

end

/-- The value a one-key tag object stands for, if it is one. -/
def untagged? : List (String × Value) → Option Value
  | [("$float", .str t)] => some (match Binary64.parse t with
    | .ok x => .float x
    | .error _ => .str t)
  | [("$float32", .str t)] => some (match Binary32.parse t with
    | .ok x => .float32 x
    | .error _ => .str t)
  | [("$oid", .str t)] => some (match ObjectId.ofHex? t with
    | some i => .objectId i
    | none => .str t)
  | [("$bytes", .str t)] => some (.bytes ((Text.base64Decode t).getD []))
  | [("$str", .str t)] => some (.str t)
  | [("$int", .number l)] => some (.int .int ((parseInt64 l).toOption.getD 0))
  | [("$int32", .number l)] => some (.int .int32 ((parseInt64 l).toOption.getD 0))
  | [("$strings", .list xs)] => some (.strings (textsOf xs))
  | _ => none

mutual

/-- The value that a tagged JSON document stands for. -/
def untag : Value → Value
  | .number l => numberValue l
  | .list xs => .list (untagList xs)
  | .obj es => (untagged? es).getD (.obj (untagEntries es))
  | v => v

def untagList : List Value → List Value
  | [] => []
  | v :: rest => untag v :: untagList rest

def untagEntries : List (String × Value) → List (String × Value)
  | [] => []
  | (k, v) :: rest => (k, untag v) :: untagEntries rest

end

end RowGate.Json
