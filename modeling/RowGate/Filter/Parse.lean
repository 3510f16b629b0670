import RowGate.Filter.Basic
import RowGate.Filter.Terms
import RowGate.Json.Reader
import RowGate.Text.Blank
import RowGate.Text.Case
import RowGate.Fault
/-!
# Reading filters

A filter from a JSON document or from text terms `field:op:value`, each condition checked for
count, field, operator and value shape, nesting at most 16 levels.
-/

namespace RowGate.Filter

open Number

def maxDepth : Nat := 16

def maxConditions : Nat := 100

def invalidValue (message : String) : Fault := .new .invalidFilterValue message

/-- Whether a value is a scalar a condition can compare with: a string, a truth value, a
64-bit integer or a double. -/
def isScalar : Value → Bool
  | .str _ | .bool _ | .int .int64 _ | .float _ => true
  | _ => false

def normalizeNumber (literal : String) : Value :=
  match parseInt64 literal with
  | .ok n => .int .int64 n
  | .error _ =>
    match Binary64.parse literal with
    | .ok x => .float x
    | .error _ => .str literal

/-- Brings numbers to the two kinds filters compare: integers of other machine kinds become
64-bit, single precision becomes double, a whole double below `2 ^ 53` becomes an integer,
numbers kept as text are read, and lists of strings become lists. -/
def normalize : Value → Value
  | .number l => normalizeNumber l
  | .int .int n | .int .int32 n => .int .int64 n
  | .float32 x => .float x.toBinary64
  | .float x =>
    match x.toSmallInt? with
    | some n => .int .int64 n
    | none => .float x
  | .list items => .list (items.map normalize)
  | .strings items => .list (items.map Value.str)
  | v => v

/-- The shape check of a condition's value for its operator. -/
def checkValue (field : String) (op : Op) (v : Value) : Except Fault Unit :=
  let q := Text.quote field
  match op with
  | .eq | .neq =>
    if isScalar v || v matches .null then .ok ()
    else .error (invalidValue (op.name ++ " on " ++ q ++ " expects a scalar value"))
  | .gt | .gte | .lt | .lte =>
    if isScalar v then .ok ()
    else .error (invalidValue (op.name ++ " on " ++ q ++ " expects a scalar value"))
  | .oneOf =>
    match v with
    | .list items =>
      if items.all isScalar then .ok ()
      else .error (invalidValue ("in on " ++ q ++ " expects an array of scalars"))
    | _ => .error (invalidValue ("in on " ++ q ++ " expects an array"))
  | .between =>
    match v with
    | .list [a, b] =>
      if isScalar a && isScalar b then .ok ()
      else .error (invalidValue ("between on " ++ q ++ " expects an array of two scalars"))
    | _ => .error (invalidValue ("between on " ++ q ++ " expects an array of two scalars"))
  | .like | .ilike =>
    match v with
    | .str _ => .ok ()
    | _ => .error (invalidValue (op.name ++ " on " ++ q ++ " expects a string pattern"))
  | .isNull =>
    match v with
    | .bool _ => .ok ()
    | _ => .error (invalidValue ("isnull on " ++ q ++ " expects true or false"))
  | .unknown _ => .ok ()

/-- Builds one condition; `count` conditions came before it. -/
def condition (allowed : List String) (count : Nat) (field rawOp : String) (v : Value) :
    Except Fault (Node × Nat) := do
  let count := count + 1
  if maxConditions < count then
    .error (invalidValue ("filter has more than " ++ toString maxConditions ++ " conditions"))
  if !allowed.contains field then
    .error (.new .invalidFilterField ("unknown filter field " ++ Text.quote field))
  let op := Op.ofName (Text.trim rawOp).lowerCase
  if !op.isKnown then
    .error (.new .invalidFilterOperator ("unknown filter operator " ++ Text.quote rawOp))
  let v := normalize v
  checkValue field op v
  .ok (.cond field op v, count)

/-- The text of a string member of an object, or empty. -/
def stringField (entries : Entries) (key : String) : String :=
  match Entries.get? entries key with
  | some (.str s) => s
  | _ => ""

mutual

/-- Reads one node with `room` levels of nesting left. -/
def readNode (allowed : List String) (room count : Nat) (v : Value) :
    Except Fault (Node × Nat) :=
  match room with
  | 0 => .error (invalidValue ("filter nesting exceeds " ++ toString maxDepth ++ " levels"))
  | room + 1 =>
    match v with
    | .obj entries =>
      let group? : Option (Logic × Value) :=
        match Entries.get? entries "and" with
        | some c => some (.and, c)
        | none => (Entries.get? entries "or").map fun c => (.or, c)
      match group? with
      | some (logic, children) =>
        if entries.length != 1 then .error (invalidValue "combinator node must have a single key")
        else
          match children with
          | .list items => readGroup allowed room count logic items
          | _ => .error (invalidValue (logic.name ++ " expects an array of conditions"))
      | none =>
        let field := stringField entries "field"
        let rawOp := stringField entries "op"
        if field.isEmpty then .error (.new .invalidFilterField "filter condition is missing a field")
        else
          let v := match Entries.get? entries "value" with
            | some v => v
            | none => if rawOp.lowerCase == "isnull" then .bool true else .null
          condition allowed count field rawOp v
    | _ => .error (invalidValue "filter node must be an object")
termination_by (room, 0)

/-- Reads a group's children, each one level deeper, and joins them. -/
def readGroup (allowed : List String) (room count : Nat) (logic : Logic) (items : List Value) :
    Except Fault (Node × Nat) :=
  if items.isEmpty then .error (invalidValue (logic.name ++ " expects at least one condition"))
  else do
    let (children, count) ← readChildren allowed room count items
    match children with
    | [c] => .ok (c, count)
    | cs => .ok (.group logic cs, count)
termination_by (room, items.length + 2)

/-- Reads several children in order. -/
def readChildren (allowed : List String) (room count : Nat) (items : List Value) :
    Except Fault (List Node × Nat) :=
  match items with
  | [] => .ok ([], count)
  | item :: rest => do
    let (n, count) ← readNode allowed room count item
    let (ns, count) ← readChildren allowed room count rest
    .ok (n :: ns, count)
termination_by (room, items.length + 1)

end

/-- Reads a decoded filter document. -/
def ofValue (v : Value) (allowed : List String) : Except Fault Filter :=
  match v with
  | .list [] => .ok none
  | .list items => (readGroup allowed (maxDepth - 1) 0 .and items).map fun r => some r.1
  | .null => .ok none
  | v => (readNode allowed maxDepth 0 v).map fun r => some r.1

/-- Decodes exactly one JSON value, refusing text after it unless it closes an array or
object. The error is the text of the decoding failure. -/
def decodeDocument (s : String) : Except String Value :=
  match Json.readValue s with
  | .error e => .error e.message
  | .ok (v, rest) => if Json.moreFollows rest then .error "trailing data after filter" else .ok v

/-- The value of a text term: empty text, else the JSON value it spells, else the text. -/
def termValue (s : String) : Value :=
  if s.isEmpty then .str s
  else match decodeDocument s with
    | .ok v => v
    | .error _ => .str s

/-- Splits a term at its first two colons. -/
def splitTerm (term : String) : List String :=
  match (term.toList.splitOn ':').map String.ofList with
  | a :: b :: c :: rest => [a, b, ":".intercalate (c :: rest)]
  | parts => parts

/-- Reads the terms of the text form in order. -/
def readTerms (allowed : List String) (count : Nat) : List String → Except Fault (List Node)
  | [] => .ok []
  | term :: rest =>
    let term := Text.trim term
    if term.isEmpty then readTerms allowed count rest
    else
      let q := Text.quote term
      match splitTerm term with
      | [f, o, v] => do
        let (n, count) ← condition allowed count (Text.trim f) (Text.trim o) (termValue (Text.trim v))
        let ns ← readTerms allowed count rest
        .ok (n :: ns)
      | [f, o] =>
        if (Text.trim o).lowerCase == "isnull" then do
          let (n, count) ← condition allowed count (Text.trim f) (Text.trim o) (.bool true)
          let ns ← readTerms allowed count rest
          .ok (n :: ns)
        else .error (invalidValue ("filter term " ++ q ++ " is missing a value"))
      | _ => .error (invalidValue ("filter term " ++ q ++ " must be field:op:value"))

/-- Reads the text form: terms joined by `and`. -/
def ofTerms (raw : String) (allowed : List String) : Except Fault Filter := do
  let nodes ← readTerms allowed 0 (splitTopLevel raw ',')
  match nodes with
  | [] => .ok none
  | [n] => .ok (some n)
  | ns => .ok (some (.group .and ns))

/-- Reads a filter from text: blank text is no filter, text starting with `{` or `[` is a
JSON document, any other text is the term form. -/
def parse (raw : String) (allowed : List String) : Except Fault Filter :=
  let raw := Text.trim raw
  match raw.toList with
  | [] => .ok none
  | c :: _ =>
    if c == '{' || c == '[' then
      match decodeDocument raw with
      | .error e => .error (.wrap .invalidFilterValue (.plain e) "filter is not valid JSON")
      | .ok v => ofValue v allowed
    else ofTerms raw allowed

end RowGate.Filter
