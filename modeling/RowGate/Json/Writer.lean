import RowGate.Value.Basic
import RowGate.Number.Parse
import RowGate.Text.Base64
import RowGate.Text.Quoted
/-!
# Writing JSON documents

`Json.write` writes a value as compact JSON with sorted keys and HTML-safe escapes; not-a-number
and the infinities fail.
-/

namespace RowGate.Json

open Number

/-- The escaped form of one character inside a JSON string. -/
def escape (c : Char) : List Char :=
  match c with
  | '"' => ['\\', '"']
  | '\\' => ['\\', '\\']
  | '\n' => ['\\', 'n']
  | '\r' => ['\\', 'r']
  | '\t' => ['\\', 't']
  | '<' => "\\u003c".toList
  | '>' => "\\u003e".toList
  | '&' => "\\u0026".toList
  | c =>
    if c.toNat == 8 then ['\\', 'b']
    else if c.toNat == 12 then ['\\', 'f']
    else if c.toNat < 0x20 then '\\' :: 'u' :: '0' :: '0' :: Text.hexDigits 2 c.toNat
    else if c.toNat == 0x2028 || c.toNat == 0x2029 then '\\' :: 'u' :: Text.hexDigits 4 c.toNat
    else [c]

def quote (s : String) : String :=
  String.ofList ('"' :: s.toList.flatMap escape ++ ['"'])

def isNumberText (s : String) : Bool :=
  let cs := s.toList
  let cs := match cs with
    | '-' :: r => r
    | r => r
  let afterWhole : Option (List Char) := match cs with
    | '0' :: r => some r
    | c :: r => if c.isDigit then some (r.dropWhile Char.isDigit) else none
    | [] => none
  match afterWhole with
  | none => false
  | some r =>
    let afterFraction : Option (List Char) := match r with
      | '.' :: d :: r => if d.isDigit then some (r.dropWhile Char.isDigit) else none
      | '.' :: [] => none
      | r => some r
    match afterFraction with
    | none => false
    | some r =>
      match r with
      | [] => true
      | e :: r =>
        if e == 'e' || e == 'E' then
          let r := match r with
            | '+' :: r => r
            | '-' :: r => r
            | r => r
          !r.isEmpty && r.all Char.isDigit
        else false

/-- Why a value has no JSON form. -/
inductive WriteError where
  | unsupported (text : String)
  | badNumber (literal : String)
deriving DecidableEq, Repr

/-- The message of a write error. -/
def WriteError.message : WriteError → String
  | .unsupported t => "json: unsupported value: " ++ t
  | .badNumber l => "json: invalid number literal " ++ Text.quote l

mutual

/-- The compact JSON text of a value. -/
def write : Value → Except WriteError String
  | .null => .ok "null"
  | .bool b => .ok (if b then "true" else "false")
  | .str s => .ok (quote s)
  | .int _ n => .ok (toString n)
  | .float x =>
    match x.script with
    | some t => .ok t
    | none => .error (.unsupported x.general)
  | .float32 x =>
    match x.script with
    | some t => .ok t
    | none => .error (.unsupported x.general)
  | .number l =>
    if l.isEmpty then .ok "0"
    else if isNumberText l then .ok l
    else .error (.badNumber l)
  | .bytes data => .ok (quote (String.ofList (Text.base64Encode data)))
  | .objectId id => .ok (quote id.hex)
  | .time t => .ok (quote t.rfc3339)
  | .named name v => do
    let w ← write v
    .ok ("\x7b\"Name\":" ++ quote name ++ ",\"Value\":" ++ w ++ "\x7d")
  | .list items => do
    let parts ← writeList items
    .ok ("[" ++ ",".intercalate parts ++ "]")
  | .strings items => .ok ("[" ++ ",".intercalate (items.map quote) ++ "]")
  | .obj entries => do
    let parts ← writeEntries entries
    .ok ("\x7b" ++ ",".intercalate parts ++ "\x7d")

def writeList : List Value → Except WriteError (List String)
  | [] => .ok []
  | v :: rest => do
    let w ← write v
    let ws ← writeList rest
    .ok (w :: ws)

def writeEntries : List (String × Value) → Except WriteError (List String)
  | [] => .ok []
  | (k, v) :: rest => do
    let w ← write v
    let ws ← writeEntries rest
    .ok ((quote k ++ ":" ++ w) :: ws)

end

end RowGate.Json
