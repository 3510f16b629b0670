import RowGate.Json.Reader
import RowGate.Text.Case
/-!
# Binding a JSON body to the fields of a record

A body's first value fills a record's fields by their names, matched exactly or up to case; the
first member of the wrong kind is the failure.
-/

namespace RowGate.Json

/-- The type of a field that a body fills. -/
inductive FieldType where
  | text
  | flag
  /-- A truth value that may be absent. -/
  | optionalFlag
  /-- A list of texts that may be absent. -/
  | texts
  /-- Any value, kept as its text. -/
  | raw
deriving DecidableEq, Repr

/-- The name of a field's type, as a failure names it. -/
def FieldType.name : FieldType → String
  | .text => "string"
  | .flag | .optionalFlag => "bool"
  | .texts => "[]string"
  | .raw => "json.RawMessage"

/-- A record that a body fills: its name with its package, its own name, and its fields. -/
structure Shape where
  qualifiedName : String
  name : String
  fields : List (String × FieldType)
deriving Repr

/-- What a member put into a field. -/
inductive Filled where
  | text (s : String)
  | flag (b : Option Bool)
  | texts (items : Option (List String))
  | raw (text : String)
deriving Repr

abbrev Binding := List (String × Filled)

def kindName : Value → String
  | .str _ => "string"
  | .bool _ => "bool"
  | .list _ => "array"
  | .obj _ => "object"
  | .null => "null"
  | _ => "number"

def membersOf (fuel : Nat) (acc : List (String × Value × String)) (cs : List Char) :
    List (String × Value × String) :=
  match fuel with
  | 0 => acc.reverse
  | fuel + 1 =>
    match skipSpace cs with
    | '"' :: rest =>
      match readString [] rest with
      | .ok (key, rest) =>
        match skipSpace rest with
        | ':' :: rest =>
          let start := skipSpace rest
          match readAny (start.length + 1) start with
          | .ok (v, after) =>
            let acc := (key, v, String.ofList (start.take (start.length - after.length))) :: acc
            match skipSpace after with
            | ',' :: after => membersOf fuel acc after
            | _ => acc.reverse
          | .error _ => acc.reverse
        | _ => acc.reverse
      | .error _ => acc.reverse
    | _ => acc.reverse

namespace Shape

def fieldOf (s : Shape) (key : String) : Option (String × FieldType) :=
  (s.fields.find? (·.1 == key)).orElse fun _ => s.fields.find? fun (n, _) => n.equalFold key

def mismatch (s : Shape) (field kind type : String) : String :=
  "json: cannot unmarshal " ++ kind ++ " into Go struct field " ++ s.name ++ "." ++ field ++ " of type " ++
    type

/-- What a member's value puts into a field: nothing, a filling, or a failure. -/
def fill (s : Shape) (field : String) (t : FieldType) (v : Value) (text : String) :
    Except String (Option Filled) :=
  match t, v with
  | .raw, _ => .ok (some (.raw text))
  | .optionalFlag, .null => .ok (some (.flag none))
  | .texts, .null => .ok (some (.texts none))
  | _, .null => .ok none
  | .text, .str x => .ok (some (.text x))
  | .flag, .bool b => .ok (some (.flag (some b)))
  | .optionalFlag, .bool b => .ok (some (.flag (some b)))
  | .texts, .list items =>
    (items.mapM fun (item : Value) => (match item with
      | .str x => .ok x
      | .null => .ok ""
      | w => .error (s.mismatch field (kindName w) "string") : Except String String)).map
      fun xs => some (.texts (some xs))
  | t, w => .error (s.mismatch field (kindName w) t.name)

/-- Binds a body to the record. -/
def bind (s : Shape) (body : String) : Except String Binding := do
  let (v, _) ← (readValue body).mapError DecodeError.message
  match v with
  | .null => pure []
  | .obj _ =>
    let start := skipSpace body.toList
    let members := membersOf (start.length + 1) [] (start.drop 1)
    members.foldlM (fun (acc : Binding) (key, v, text) => do
      match s.fieldOf key with
      | none => pure acc
      | some (field, t) =>
        match ← s.fill field t v text with
        | some f => pure (acc ++ [(field, f)])
        | none => pure acc) []
  | w => throw ("json: cannot unmarshal " ++ kindName w ++ " into Go value of type " ++ s.qualifiedName)

end Shape

namespace Binding

def last? (b : Binding) (field : String) : Option Filled :=
  (b.reverse.find? (·.1 == field)).map (·.2)

/-- A text field; empty when no member filled it. -/
def text (b : Binding) (field : String) : String :=
  match b.last? field with
  | some (.text x) => x
  | _ => ""

/-- A truth field; absent when no member filled it or the last was `null`. -/
def flag? (b : Binding) (field : String) : Option Bool :=
  match b.last? field with
  | some (.flag x) => x
  | _ => none

/-- A list of texts; absent when no member filled it or the last was `null`. -/
def texts? (b : Binding) (field : String) : Option (List String) :=
  match b.last? field with
  | some (.texts x) => x
  | _ => none

/-- The text of a raw field, if a member filled it. -/
def raw? (b : Binding) (field : String) : Option String :=
  match b.last? field with
  | some (.raw x) => some x
  | _ => none

end Binding

end RowGate.Json
