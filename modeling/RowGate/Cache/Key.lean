import RowGate.Hash.XXHash
import RowGate.Json.Writer
/-!
# Cache keys and checksums

A fingerprint is the hex XXH64 of a key's JSON text; a checksum is the XXH64 of a value's.
-/

namespace RowGate.Cache

/-- What identifies a response. -/
structure Key where
  op : String := ""
  service : String := ""
  entity : String := ""
  env : String := ""
  role : String := ""
  org : String := ""
  user : String := ""
  params : Option (List (String × String)) := none
deriving DecidableEq, Repr, Inhabited

/-- The JSON text of a key. -/
def Key.json (k : Key) : String :=
  let q := Json.quote
  let params := match k.params with
    | none => "null"
    | some ps =>
      let sorted := (Entries.ofList (ps.map fun (a, b) => (a, Value.str b))).map fun (a, v) =>
        q a ++ ":" ++ (match v with
          | .str b => q b
          | _ => "null")
      "\x7b" ++ ",".intercalate sorted ++ "\x7d"
  "\x7b\"op\":" ++ q k.op ++ ",\"service\":" ++ q k.service ++ ",\"entity\":" ++ q k.entity ++
    ",\"env\":" ++ q k.env ++ ",\"role\":" ++ q k.role ++ ",\"org\":" ++ q k.org ++
    ",\"user\":" ++ q k.user ++ ",\"params\":" ++ params ++ "\x7d"

def Key.fingerprint (k : Key) : String := Hash.hexText (Hash.xxh64String k.json).toNat

def checksum (v : Value) : Except Json.WriteError UInt64 :=
  (Json.write v).map Hash.xxh64String

end RowGate.Cache
