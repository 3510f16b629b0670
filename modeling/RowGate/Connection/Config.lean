import RowGate.Hash.XXHash
import RowGate.Text.Blank
import RowGate.Text.Case
/-!
# Connection settings

How the gateway reaches a database, and the fingerprint under which two settings share a pool.
-/

namespace RowGate.Connection

/-- The settings of a database connection. -/
structure Config where
  type : String := ""
  host : String := ""
  port : Int := 0
  user : String := ""
  password : String := ""
  database : String := ""
  tls : Bool := false
  /-- Driver options by name. -/
  options : List (String × String) := []
deriving DecidableEq, Repr, Inhabited

def sortByKey (pairs : List (String × String)) : List (String × String) :=
  pairs.mergeSort fun a b => a.1 ≤ b.1

/-- Sixteen hex digits, zero padded. -/
def hex16 (n : UInt64) : String :=
  let s := Hash.hexText n.toNat
  String.ofList (List.replicate (16 - s.length) '0') ++ s

/-- The text the fingerprint hashes. -/
def Config.identity (c : Config) : String :=
  "|".intercalate [(Text.trim c.type).lowerCase, (Text.trim c.host).lowerCase, toString c.port,
      Text.trim c.database, Text.trim c.user, Hash.hexText (Hash.xxh64String c.password).toNat,
      if c.tls then "true" else "false"] ++
    String.join ((sortByKey c.options).map fun (k, v) => "|" ++ k ++ "=" ++ v)

def Config.fingerprint (c : Config) : String :=
  c.type.lowerCase ++ ":" ++ hex16 (Hash.xxh64String c.identity)

end RowGate.Connection
