import RowGate.Number.Parse
import RowGate.Text.Case
/-!
# Tokens of statements

Words, quoted names and literals, numbers, argument marks and symbols, separated by spaces and
comments.
-/

namespace RowGate.Relational

open Number

/-- A token of a statement. -/
inductive Token where
  | word (text : String)
  | quoted (text : String)
  | str (text : String)
  | num (text : String)
  | hex (bytes : List UInt8)
  | param
  | sym (text : String)
deriving DecidableEq, Repr, Inhabited

/-- A token, the offset where it starts and the count of characters it spans. -/
structure Lexeme where
  token : Token
  pos : Nat
  len : Nat
deriving Repr, Inhabited

/-- The text of a token as written, for messages. -/
def Token.text : Token → String
  | .word t | .num t | .sym t => t
  | .quoted t => "`" ++ t ++ "`"
  | .str t => "'" ++ t ++ "'"
  | .hex _ => "0x"
  | .param => "?"

def isWordStart (c : Char) : Bool := c.isAlpha || c == '_' || c == '$' || c.toNat ≥ 128

def isWordChar (c : Char) : Bool := isWordStart c || c.isDigit

def hexBytes : List Char → Option (List UInt8)
  | [] => some []
  | a :: b :: rest => do
    let hi ← hexValue a
    let lo ← hexValue b
    let tail ← hexBytes rest
    some ((hi * 16 + lo).toUInt8 :: tail)
  | [_] => none

def quotedRest (q : Char) (escapes : Bool) : List Char → List Char → Option (List Char × List Char)
  | [], _ => none
  | c :: rest, acc =>
    if c == q then
      match rest with
      | d :: rest' => if d == q then quotedRest q escapes rest' (q :: acc) else some (acc.reverse, rest)
      | [] => some (acc.reverse, [])
    else if escapes && c == '\\' then
      match rest with
      | d :: rest' =>
        let out : List Char := match d with
          | 'n' => ['\n'] | 't' => ['\t'] | 'r' => ['\r'] | '0' => [Char.ofNat 0]
          | 'b' => [Char.ofNat 8] | 'Z' => [Char.ofNat 26] | '%' => ['%', '\\'] | '_' => ['_', '\\']
          | d => [d]
        quotedRest q escapes rest' (out ++ acc)
      | [] => none
    else quotedRest q escapes rest (c :: acc)

def pairSymbols : List String := ["<=", ">=", "<>", "!=", "||", "&&", ":="]

def lexFrom : Nat → Nat → List Char → Except String (List Lexeme)
  | 0, _, _ => .ok []
  | _, _, [] => .ok []
  | fuel + 1, pos, c :: rest =>
    let emit (t : Token) (used : Nat) (more : List Char) : Except String (List Lexeme) := do
      let tail ← lexFrom fuel (pos + used) more
      .ok (⟨t, pos, used⟩ :: tail)
    if c == ' ' || c == '\t' || c == '\n' || c == '\r' then lexFrom fuel (pos + 1) rest
    else if c == '#' || (c == '-' && rest.head? == some '-') then
      let more := rest.dropWhile (· != '\n')
      lexFrom fuel (pos + 1 + rest.length - more.length) more
    else if c == '/' && rest.head? == some '*' then
      let body := rest.drop 1
      let rec skip : List Char → Nat → List Char × Nat
        | '*' :: '/' :: r, n => (r, n + 2)
        | _ :: r, n => skip r (n + 1)
        | [], n => ([], n)
      let (more, n) := skip body 0
      lexFrom fuel (pos + 2 + n) more
    else if c == '`' then
      match quotedRest '`' false rest [] with
      | some (t, more) => emit (.quoted (String.ofList t)) (1 + rest.length - more.length) more
      | none => .error "unterminated quoted name"
    else if c == '\'' || c == '"' then
      match quotedRest c true rest [] with
      | some (t, more) => emit (.str (String.ofList t)) (1 + rest.length - more.length) more
      | none => .error "unterminated string"
    else if (c == 'x' || c == 'X') && rest.head? == some '\'' then
      let body := (rest.drop 1).takeWhile (· != '\'')
      match hexBytes body with
      | some bs => emit (.hex bs) (3 + body.length) ((rest.drop 1).drop (body.length + 1))
      | none => .error "bad hexadecimal literal"
    else if c == '0' && (rest.head? == some 'x' || rest.head? == some 'X') &&
        ((rest.drop 1).head?.map fun d => (hexValue d).isSome).getD false then
      let body := (rest.drop 1).takeWhile fun d => (hexValue d).isSome
      let body' := if body.length % 2 == 1 then '0' :: body else body
      match hexBytes body' with
      | some bs => emit (.hex bs) (2 + body.length) ((rest.drop 1).drop body.length)
      | none => .error "bad hexadecimal literal"
    else if c.isDigit || (c == '.' && ((rest.head?.map Char.isDigit).getD false)) then
      let cs := c :: rest
      let whole := cs.takeWhile Char.isDigit
      let r := cs.dropWhile Char.isDigit
      let (frac, r) := match r with
        | '.' :: r' => ('.' :: r'.takeWhile Char.isDigit, r'.dropWhile Char.isDigit)
        | r => ([], r)
      let (expo, r) := match r with
        | e :: r' =>
          if e == 'e' || e == 'E' then
            let (sign, r'') := match r' with
              | '+' :: x => (['+'], x)
              | '-' :: x => (['-'], x)
              | x => ([], x)
            let ds := r''.takeWhile Char.isDigit
            if ds.isEmpty then ([], r) else (e :: sign ++ ds, r''.dropWhile Char.isDigit)
          else ([], r)
        | [] => ([], [])
      let text := whole ++ frac ++ expo
      if (r.head?.map isWordStart).getD false && frac.isEmpty && expo.isEmpty then
        let w := cs.takeWhile isWordChar
        emit (.word (String.ofList w)) w.length (cs.drop w.length)
      else emit (.num (String.ofList text)) text.length r
    else if isWordStart c then
      let w := (c :: rest).takeWhile isWordChar
      emit (.word (String.ofList w)) w.length ((c :: rest).drop w.length)
    else if c == '?' then emit .param 1 rest
    else
      let two := String.ofList (c :: rest.take 1)
      if c == '<' && rest.take 2 == ['=', '>'] then emit (.sym "<=>") 3 (rest.drop 2)
      else if pairSymbols.contains two then emit (.sym two) 2 (rest.drop 1)
      else emit (.sym (String.singleton c)) 1 rest

def lex (s : String) : Except String (List Lexeme) :=
  lexFrom (s.length + 1) 0 s.toList

end RowGate.Relational
