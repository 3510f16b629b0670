import RowGate.Text.Blank
/-!
# Environment files

Statements `export? NAME=value` with quoting, comments and `$NAME` expansion, read one after
another; a file with any malformed statement assigns nothing.
-/

namespace RowGate.App

def isLineBlank (c : Char) : Bool :=
  c == '\t' || c == '\x0b' || c == '\x0c' || c == '\r' || c == ' ' || c == '\x85' || c == '\xa0'

def isNameByte (b : UInt8) : Bool :=
  let c := Char.ofNat b.toNat
  isLineBlank c || c == '_' || c == '.' || c.isAlphanum ||
    [0xaa, 0xb2, 0xb3, 0xb5, 0xb9, 0xba, 0xbc, 0xbd, 0xbe].contains b.toNat ||
    (0xc0 ≤ b.toNat && b.toNat != 0xd7 && b.toNat != 0xf7)

def isNameChar (c : Char) : Bool := c.toString.toUTF8.toList.all isNameByte

def statementStart (cs : List Char) : Option (List Char) :=
  match _h : cs.dropWhile Char.isBlank with
  | [] => none
  | c :: rest =>
    if c != '#' then some (c :: rest)
    else match rest.findIdx? (· == '\n') with
      | none => none
      | some i =>
        if _hl : (rest.drop i).length < cs.length then statementStart (rest.drop i) else none
termination_by cs.length
decreasing_by simpa using _hl

/-- Reads the name of a statement and the text after its `=` or `:`; a statement without
either has an empty name and is all value. -/
def readName (cs : List Char) : Option (String × List Char) :=
  let cs := cs.dropWhile isLineBlank
  let cs := match cs with
    | 'e' :: 'x' :: 'p' :: 'o' :: 'r' :: 't' :: c :: rest =>
      if isLineBlank c then (c :: rest).dropWhile isLineBlank else cs
    | _ => cs
  let name := cs.takeWhile fun c => c != '=' && c != ':'
  if !name.all isNameChar then none
  else if name.length == cs.length then
    if cs.isEmpty then none else some ("", cs)
  else
    some (String.ofList (name.reverse.dropWhile Char.isBlank).reverse,
      (cs.drop (name.length + 1)).dropWhile isLineBlank)

def breakEscapes : List Char → List Char
  | '\\' :: 'n' :: r => '\n' :: breakEscapes r
  | '\\' :: 'r' :: r => '\r' :: breakEscapes r
  | '\\' :: c :: r => if c == '\n' then '\\' :: breakEscapes (c :: r) else '\\' :: c :: breakEscapes r
  | c :: r => c :: breakEscapes r
  | [] => []

def dropBackslashes : List Char → List Char
  | '\\' :: c :: r => if c == '$' then '\\' :: dropBackslashes (c :: r) else c :: dropBackslashes r
  | c :: r => c :: dropBackslashes r
  | [] => []

def isVariableChar (c : Char) : Bool := c.isUpper || c.isDigit || c == '_'

def variableAfter (cs : List Char) : String × Nat :=
  let a := if cs.head? == some '(' then 1 else 0
  let b := if (cs.drop a).head? == some '{' then 1 else 0
  let name := (cs.drop (a + b)).takeWhile isVariableChar
  let c := if (cs.drop (a + b + name.length)).head? == some '}' then 1 else 0
  (String.ofList name, a + b + name.length + c)

def expand (lookup : String → String) : List Char → List Char
  | [] => []
  | '\\' :: '$' :: r =>
    let (_, n) := variableAfter r
    '$' :: r.take n ++ expand lookup (r.drop n)
  | '$' :: r =>
    let (name, n) := variableAfter r
    (if name.isEmpty then '$' :: r.take n else (lookup name).toList) ++ expand lookup (r.drop n)
  | c :: r => c :: expand lookup r
termination_by cs => cs.length
decreasing_by all_goals (simp <;> omega)

/-- Reads a value: its text and the rest of the file; `none` for an unclosed quote. -/
def readValue (lookup : String → String) (cs : List Char) : Option (String × List Char) :=
  match cs with
  | q :: body =>
    if q == '"' || q == '\'' then
      let ends := (List.range body.length).find? fun i =>
        body[i]? == some q && (if i == 0 then q != '\\' else body[i - 1]? != some '\\')
      ends.map fun i =>
        let raw := (q :: body.take i).dropWhile (· == q) |>.reverse.dropWhile (· == q) |>.reverse
        let v := if q == '"' then expand lookup (dropBackslashes (breakEscapes raw)) else raw
        (String.ofList v, body.drop (i + 1))
    else unquoted (q :: body)
  | [] => some ("", [])
where
  unquoted (cs : List Char) : Option (String × List Char) :=
    let text := cs.takeWhile fun c => c != '\n' && c != '\r'
    let rest := cs.drop text.length
    -- a comment starts at the last `#` that follows a blank
    let cut := ((List.range text.length).reverse.find? fun i =>
      0 < i && text[i]? == some '#' && (text[i - 1]?.map isLineBlank).getD false).getD text.length
    let v := (text.take cut).dropWhile isLineBlank |>.reverse.dropWhile isLineBlank |>.reverse
    some (String.ofList (expand lookup v), rest)

def readAssignments (env : String → Option String) (cs : List Char)
    (acc : List (String × String)) : Option (List (String × String)) :=
  match statementStart cs with
  | none => some acc
  | some s =>
    match readName s with
    | none => none
    | some (name, afterName) =>
      let lookup := fun n => match (acc.reverse.find? (·.1 == n)) with
        | some (_, v) => v
        | none => (env n).getD ""
      match readValue lookup afterName with
      | none => none
      | some (value, rest) =>
        if _h : rest.length < cs.length then readAssignments env rest (acc ++ [(name, value)])
        else some (acc ++ [(name, value)])
termination_by cs.length

/-- The assignments of an environment file's text; line ends `\r\n` count as `\n`. -/
def EnvFile.parse (env : String → Option String) (text : String) : Option (List (String × String)) :=
  let cs := text.toList
  let rec crlf : List Char → List Char
    | '\r' :: '\n' :: r => '\n' :: crlf r
    | c :: r => c :: crlf r
    | [] => []
  readAssignments env (crlf cs) []

end RowGate.App
