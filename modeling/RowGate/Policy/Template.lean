import RowGate.Value.Basic
import RowGate.Number.Float
import RowGate.Fault
import RowGate.Text.Quoted
/-!
# Policy templates

Placeholders `{{ path }}` in the strings of a JSON template, and rendering them against a
context.
-/

namespace RowGate.Policy

open Number

def isBlank (c : Char) : Bool := c == ' ' || c == '\t' || c == '\n' || c == '\r' || c.toNat == 12

def isWordChar (c : Char) : Bool := c.isAlphanum || c == '_'

def readSegments (cs : List Char) : List Char × List Char :=
  match cs with
  | '.' :: c :: rest =>
    if isWordChar c then
      let seg := (c :: rest).takeWhile isWordChar
      let (more, after) := readSegments ((c :: rest).dropWhile isWordChar)
      ('.' :: seg ++ more, after)
    else ([], cs)
  | _ => ([], cs)
termination_by cs.length
decreasing_by
  have := (List.dropWhile_sublist isWordChar (l := c :: rest)).length_le
  simp at this ⊢
  omega

/-- The placeholder at the front of a text: its path and the text after it. -/
def placeholderAt (cs : List Char) : Option (String × List Char) :=
  match cs with
  | '{' :: '{' :: rest =>
    let rest := rest.dropWhile isBlank
    let seg := rest.takeWhile isWordChar
    if seg.isEmpty then none
    else
      let (more, after) := readSegments (rest.dropWhile isWordChar)
      match after.dropWhile isBlank with
      | '}' :: '}' :: tail => some (String.ofList (seg ++ more), tail)
      | _ => none
  | _ => none

/-- A stretch of a template string: literal text or a placeholder. -/
inductive Piece where
  | text (c : Char)
  | hole (path : String)
deriving DecidableEq, Repr

/-- Splits text into literal characters and placeholders, left to right. -/
def piecesAux : Nat → List Char → List Piece
  | 0, cs => cs.map Piece.text
  | _ + 1, [] => []
  | fuel + 1, c :: rest =>
    match placeholderAt (c :: rest) with
    | some (path, after) => .hole path :: piecesAux fuel after
    | none => .text c :: piecesAux fuel rest

def pieces (s : String) : List Piece := piecesAux (s.length + 1) s.toList

/-- The paths of the placeholders of a text, in order. -/
def placeholders (s : String) : List String :=
  (pieces s).filterMap fun p => match p with
    | .hole path => some path
    | .text _ => none

def hasPlaceholders (s : String) : Bool := !(placeholders s).isEmpty

def lookup (context : Value) (path : String) : Option Value :=
  (path.splitOn ".").foldl (fun cur part => cur.bind fun v => v.field? part) (some context)

/-- Values a placeholder may stand for: null, text, truth values, integers of the common
machine kinds, numbers of either precision and numbers kept as text. -/
def isScalar : Value → Bool
  | .null | .str _ | .bool _ | .float _ | .float32 _ | .number _ => true
  | .int k _ => [IntKind.int, .int32, .int64, .uint, .uint32, .uint64].contains k
  | _ => false

/-- The text of a value inside a longer string. -/
def scalarText (v : Value) : Except String String :=
  match v with
  | .str s => .ok s
  | .bool b => .ok (if b then "true" else "false")
  | .float x => .ok x.fixed
  | .float32 x => .ok x.fixed
  | .number l => .ok l
  | .int k n =>
    if [IntKind.int, .int32, .int64, .uint, .uint32, .uint64].contains k then .ok (toString n)
    else .error ("value of type " ++ v.typeName ++ " cannot be embedded in a string")
  | _ => .error ("value of type " ++ v.typeName ++ " cannot be embedded in a string")

def renderFault (message : String) : Fault := .new .policyTemplateRender message

/-- The text of one placeholder inside a longer string. -/
def holeText (context : Value) (path : String) : Except Fault String :=
  match lookup context path with
  | none | some .null => .error (renderFault ("placeholder " ++ Text.quote path ++ " has no value"))
  | some v =>
    match scalarText v with
    | .ok t => .ok t
    | .error e => .error (.wrap .policyTemplateRender (.plain e) ("placeholder " ++ Text.quote path))

/-- Adds a piece of a longer string to the text rendered so far, or records its failure. -/
def renderPiece (context : Value) (acc : List Char × Option Fault) : Piece → List Char × Option Fault
  | .text c => (acc.1 ++ [c], acc.2)
  | .hole path =>
    match holeText context path with
    | .ok t => (acc.1 ++ t.toList, acc.2)
    | .error f => (acc.1, some f)

/-- Renders a string of a template. -/
def renderString (context : Value) (s : String) : Except Fault Value :=
  match placeholderAt s.toList with
  | some (path, []) =>
    let v := (lookup context path).getD .null
    if isScalar v then .ok v
    else .error (renderFault ("placeholder " ++ Text.quote path ++ " does not resolve to a scalar"))
  | _ =>
    match (pieces s).foldl (renderPiece context) ([], none) with
    | (_, some f) => .error f
    | (out, none) => .ok (.str (String.ofList out))

mutual

/-- Renders a template against a context; keys and non-string leaves stay as they are. -/
def render (context : Value) : Value → Except Fault Value
  | .obj entries => do
    let rendered ← renderEntries context entries
    .ok (.obj rendered)
  | .list items => do
    let rendered ← renderList context items
    .ok (.list rendered)
  | .str s => renderString context s
  | v => .ok v

/-- Renders the values of an object's entries. -/
def renderEntries (context : Value) : List (String × Value) → Except Fault (List (String × Value))
  | [] => .ok []
  | (k, v) :: rest => do
    let r ← render context v
    let rs ← renderEntries context rest
    .ok ((k, r) :: rs)

/-- Renders the items of a list. -/
def renderList (context : Value) : List Value → Except Fault (List Value)
  | [] => .ok []
  | v :: rest => do
    let r ← render context v
    let rs ← renderList context rest
    .ok (r :: rs)

end

def probeInsert (path : String) : List String → Entries → Entries
  | [], ctx => ctx
  | [last], ctx => if (Entries.get? ctx last).isSome then ctx else Entries.insert last (.str path) ctx
  | part :: rest, ctx =>
    let inner := match Entries.get? ctx part with
      | some (.obj es) => es
      | _ => []
    Entries.insert part (.obj (probeInsert path rest inner)) ctx

def probeContext (template : String) : Value :=
  .obj ((placeholders template).foldl (fun ctx path => probeInsert path (path.splitOn ".") ctx) [])

end RowGate.Policy
