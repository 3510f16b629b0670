import RowGate.Json.Tagged
import RowGate.Value.Instant
/-!
# Documents

Document values (ids, instants, decimals, ordered documents, arrays) and `Bson.toValue`, which
turns them into row values, with their tagged JSON form.
-/

namespace RowGate.Executor

/-- A value of a document. -/
inductive Bson where
  /-- A value of no type of the database's own. -/
  | value (v : Value)
  | objectId (id : ObjectId)
  /-- An instant, in milliseconds since the epoch. -/
  | dateTime (ms : Int)
  | decimal (text : String)
  /-- A document as a map. -/
  | map (entries : List (String × Bson))
  /-- A document as an ordered list of pairs. -/
  | ordered (entries : List (String × Bson))
  | array (items : List Bson)
  /-- A plain list, which rows keep as it is. -/
  | plain (items : List Bson)
deriving Repr, Inhabited

namespace Bson

mutual

/-- A document value as a row holds it. -/
def toValue : Bson → Value
  | .value v => v
  | .objectId i => .str i.hex
  | .dateTime ms => .time (Instant.ofMillis ms)
  | .decimal t => .str t
  | .map es => .ofPairs (entriesToValue es)
  | .ordered es => .ofPairs (entriesToValue es)
  | .array xs => .list (listToValue xs)
  | .plain xs => .list (listAsIs xs)

/-- Document values as a row holds them. -/
def listToValue : List Bson → List Value
  | [] => []
  | x :: rest => toValue x :: listToValue rest

/-- The entries of a document as a row holds them. -/
def entriesToValue : List (String × Bson) → List (String × Value)
  | [] => []
  | (k, x) :: rest => (k, toValue x) :: entriesToValue rest

def asIs : Bson → Value
  | .value v => v
  | .objectId i => .objectId i
  | .dateTime ms => .time (Instant.ofMillis ms)
  | .decimal t => .str t
  | .map es => .ofPairs (entriesAsIs es)
  | .ordered es => .ofPairs (entriesAsIs es)
  | .array xs => .list (listAsIs xs)
  | .plain xs => .list (listAsIs xs)

def listAsIs : List Bson → List Value
  | [] => []
  | x :: rest => asIs x :: listAsIs rest

def entriesAsIs : List (String × Bson) → List (String × Value)
  | [] => []
  | (k, x) :: rest => (k, asIs x) :: entriesAsIs rest

end

mutual

/-- The document value that tagged JSON stands for. -/
def ofTagged : Value → Bson
  | .obj [("$oid", .str t)] => match ObjectId.ofHex? t with
    | some i => .objectId i
    | none => .value (.str t)
  | .obj [("$date", .number l)] => .dateTime ((Number.parseInt64 l).toOption.getD 0)
  | .obj [("$decimal", .str t)] => .decimal t
  | .obj [("$d", .list ps)] => .ordered (pairsOfTagged ps)
  | .obj [("$list", .list xs)] => .plain (listOfTagged xs)
  | .obj es => match Json.untagged? es with
    | some v => .value v
    | none => .map (entriesOfTagged es)
  | .list xs => .array (listOfTagged xs)
  | v => .value (Json.untag v)

def listOfTagged : List Value → List Bson
  | [] => []
  | v :: rest => ofTagged v :: listOfTagged rest

def entriesOfTagged : List (String × Value) → List (String × Bson)
  | [] => []
  | (k, v) :: rest => (k, ofTagged v) :: entriesOfTagged rest

def pairsOfTagged : List Value → List (String × Bson)
  | [] => []
  | .list [.str k, v] :: rest => (k, ofTagged v) :: pairsOfTagged rest
  | _ :: rest => pairsOfTagged rest

end

end Bson

end RowGate.Executor
