import RowGate.Number.Float
import RowGate.Value.Instant
/-!
# Values

Values between clients, the gateway and databases, keeping machine kinds apart; objects are
maps sorted by key.
-/

namespace RowGate

open Number

/-- The machine kinds of integers. -/
inductive IntKind where
  | int | int8 | int16 | int32 | int64 | uint | uint8 | uint16 | uint32 | uint64
deriving DecidableEq, Repr, Inhabited

/-- A twelve-byte document id. -/
structure ObjectId where
  bytes : List UInt8
deriving DecidableEq, Repr, Inhabited

/-- A value handled by the gateway. -/
inductive Value where
  | null
  | bool (b : Bool)
  | str (s : String)
  | int (kind : IntKind) (n : Int)
  | float (x : Binary64)
  | float32 (x : Binary32)
  /-- A number kept as its literal text. -/
  | number (literal : String)
  | bytes (data : List UInt8)
  | objectId (id : ObjectId)
  | time (t : Instant)
  /-- A statement argument bound by name. -/
  | named (name : String) (value : Value)
  | list (items : List Value)
  | strings (items : List String)
  /-- An object, its entries sorted by key without repeats. -/
  | obj (entries : List (String × Value))
deriving Repr, Inhabited

namespace IntKind

/-- The name of the kind. -/
def name : IntKind → String
  | int => "int" | int8 => "int8" | int16 => "int16" | int32 => "int32" | int64 => "int64"
  | uint => "uint" | uint8 => "uint8" | uint16 => "uint16" | uint32 => "uint32"
  | uint64 => "uint64"

end IntKind

namespace ObjectId

/-- The 24 lower-case hex digits of an id. -/
def hex (id : ObjectId) : String :=
  String.ofList (id.bytes.flatMap fun b =>
    [Nat.digitChar (b.toNat / 16), Nat.digitChar (b.toNat % 16)])

/-- Reads 24 hex digits of either case. -/
def ofHex? (s : String) : Option ObjectId :=
  let digit (c : Char) : Option Nat :=
    if c.isDigit then some (c.toNat - '0'.toNat)
    else if 'a' ≤ c && c ≤ 'f' then some (c.toNat - 'a'.toNat + 10)
    else if 'A' ≤ c && c ≤ 'F' then some (c.toNat - 'A'.toNat + 10)
    else none
  let rec pairs : List Char → Option (List UInt8)
    | [] => some []
    | a :: b :: rest => do
      let hi ← digit a
      let lo ← digit b
      let tail ← pairs rest
      some ((hi * 16 + lo).toUInt8 :: tail)
    | [_] => none
  if s.length == 24 then (pairs s.toList).map ObjectId.mk else none

end ObjectId

abbrev Entries := List (String × Value)

namespace Entries

/-- Sets `key` to `v`, keeping the keys sorted; an entry already there is replaced. -/
def insert (key : String) (v : Value) : Entries → Entries
  | [] => [(key, v)]
  | (k, w) :: rest =>
    if key < k then (key, v) :: (k, w) :: rest
    else if key == k then (key, v) :: rest
    else (k, w) :: insert key v rest

def ofList (pairs : List (String × Value)) : Entries :=
  pairs.foldl (fun acc p => insert p.1 p.2 acc) []

def get? (entries : Entries) (key : String) : Option Value :=
  (entries.find? fun p => p.1 == key).map Prod.snd

def erase (entries : Entries) (key : String) : Entries :=
  entries.filter fun p => p.1 != key

end Entries

namespace Value

def ofPairs (pairs : List (String × Value)) : Value := .obj (Entries.ofList pairs)

def int64 (n : Int) : Value := .int .int64 n

/-- The value at a key of an object. -/
def field? : Value → String → Option Value
  | .obj entries, key => Entries.get? entries key
  | _, _ => none

/-- The name of a value's type as the messages about values spell it. -/
def typeName : Value → String
  | .null => "<nil>"
  | .bool _ => "bool"
  | .str _ => "string"
  | .int k _ => k.name
  | .float _ => "float64"
  | .float32 _ => "float32"
  | .number _ => "json.Number"
  | .bytes _ => "[]uint8"
  | .objectId _ => "primitive.ObjectID"
  | .time _ => "time.Time"
  | .named .. => "sql.NamedArg"
  | .list _ => "[]interface {}"
  | .strings _ => "[]string"
  | .obj _ => "map[string]interface {}"

end Value

end RowGate
