import RowGate.Value.Basic
import RowGate.Text.Quoted
/-!
# Reading JSON documents

`Json.readValue` reads one value from the front of a text and returns the rest; its errors name
the first character that cannot continue a value.
-/

namespace RowGate.Json

/-- What the reader was looking for when it met a character it could not take. -/
inductive Expectation where
  | valueStart
  | keyStart
  | afterKey
  | afterPair
  | afterElement
  | inString
  | inEscape
  | inUnicodeEscape
  | inNumber
  | afterPoint
  | inExponent
  /-- Inside the literal `word`, where `next` was due. -/
  | inLiteral (word : String) (next : Char)
deriving DecidableEq, Repr

/-- Why a text is not a JSON value. -/
inductive DecodeError where
  /-- The text holds no value at all. -/
  | empty
  /-- The text ends inside a value. -/
  | truncated
  /-- A character that cannot stand where it stands. -/
  | invalid (c : Char) (expected : Expectation)
deriving DecidableEq, Repr

def leadByte (c : Char) : Char :=
  let n := c.toNat
  if n < 0x80 then c
  else if n < 0x800 then Char.ofNat (0xC0 + n / 0x40)
  else if n < 0x10000 then Char.ofNat (0xE0 + n / 0x1000)
  else Char.ofNat (0xF0 + n / 0x40000)

/-- A character between single quotes, escaped as in quoted text. -/
def quoteChar (c : Char) : String :=
  if c == '\'' then "'\\''"
  else if c == '"' then "'\"'"
  else String.ofList ('\'' :: Text.escapeChar '"' c ++ ['\''])

/-- The words after the offending character. -/
def Expectation.text : Expectation → String
  | .valueStart => "looking for beginning of value"
  | .keyStart => "looking for beginning of object key string"
  | .afterKey => "after object key"
  | .afterPair => "after object key:value pair"
  | .afterElement => "after array element"
  | .inString => "in string literal"
  | .inEscape => "in string escape code"
  | .inUnicodeEscape => "in \\u hexadecimal character escape"
  | .inNumber => "in numeric literal"
  | .afterPoint => "after decimal point in numeric literal"
  | .inExponent => "in exponent of numeric literal"
  | .inLiteral word next => "in literal " ++ word ++ " (expecting " ++ quoteChar next ++ ")"

/-- The message of a decoding error. -/
def DecodeError.message : DecodeError → String
  | .empty => "EOF"
  | .truncated => "unexpected EOF"
  | .invalid c e => "invalid character " ++ quoteChar (leadByte c) ++ " " ++ e.text

def isSpace (c : Char) : Bool := c == ' ' || c == '\t' || c == '\r' || c == '\n'

def skipSpace (cs : List Char) : List Char := cs.dropWhile isSpace

/-- The value of a hex digit. -/
def hexDigit? (c : Char) : Option Nat :=
  if c.isDigit then some (c.toNat - '0'.toNat)
  else if 'a' ≤ c && c ≤ 'f' then some (c.toNat - 'a'.toNat + 10)
  else if 'A' ≤ c && c ≤ 'F' then some (c.toNat - 'A'.toNat + 10)
  else none

/-- The code unit of four hex digits, or the error at the first that is not one. -/
def unit4 (a b c d : Char) : Except DecodeError Nat :=
  match hexDigit? a, hexDigit? b, hexDigit? c, hexDigit? d with
  | some w, some x, some y, some z => .ok (((w * 16 + x) * 16 + y) * 16 + z)
  | none, _, _, _ => .error (.invalid a .inUnicodeEscape)
  | _, none, _, _ => .error (.invalid b .inUnicodeEscape)
  | _, _, none, _ => .error (.invalid c .inUnicodeEscape)
  | _, _, _, none => .error (.invalid d .inUnicodeEscape)

def shortUnit (cs : List Char) : DecodeError :=
  match cs.find? fun c => (hexDigit? c).isNone with
  | some c => .invalid c .inUnicodeEscape
  | none => .truncated

/-- The character of a one-letter escape. -/
def simpleEscape? : Char → Option Char
  | '"' => some '"'
  | '\\' => some '\\'
  | '/' => some '/'
  | 'b' => some (Char.ofNat 8)
  | 'f' => some (Char.ofNat 12)
  | 'n' => some '\n'
  | 'r' => some '\r'
  | 't' => some '\t'
  | _ => none

def replacement : Char := Char.ofNat 0xFFFD

/-- Reads the body of a string after its opening quote; `acc` holds the characters read so
far, last first. Returns the string and the text after the closing quote. -/
def readString (acc : List Char) : List Char → Except DecodeError (String × List Char)
  | [] => .error .truncated
  | '"' :: rest => .ok (String.ofList acc.reverse, rest)
  | '\\' :: 'u' :: a :: b :: c :: d :: rest =>
    match unit4 a b c d with
    | .error e => .error e
    | .ok u =>
      if u < 0xD800 || 0xDFFF < u then readString (Char.ofNat u :: acc) rest
      else
        match _hr : rest with
        | '\\' :: 'u' :: e :: f :: g :: h :: rest' =>
          match unit4 e f g h with
          | .ok v =>
            if u < 0xDC00 && 0xDC00 ≤ v && v ≤ 0xDFFF then
              readString (Char.ofNat (0x10000 + (u - 0xD800) * 0x400 + (v - 0xDC00)) :: acc) rest'
            else readString (replacement :: acc) rest
          | .error _ => readString (replacement :: acc) rest
        | _ => readString (replacement :: acc) rest
  | '\\' :: 'u' :: short => .error (shortUnit short)
  | '\\' :: c :: rest =>
    match simpleEscape? c with
    | some e => readString (e :: acc) rest
    | none => .error (.invalid c .inEscape)
  | ['\\'] => .error .truncated
  | c :: rest =>
    if c.toNat < 0x20 then .error (.invalid c .inString) else readString (c :: acc) rest
termination_by cs => cs.length
decreasing_by all_goals (try subst _hr) <;> simp <;> omega

def spanDigits (cs : List Char) : List Char × List Char :=
  (cs.takeWhile Char.isDigit, cs.dropWhile Char.isDigit)

/-- Reads the exponent of a number: an optional sign and at least one digit. -/
def readExponent (cs : List Char) : Except DecodeError (List Char × List Char) :=
  let (sign, body) := match cs with
    | '+' :: r => (['+'], r)
    | '-' :: r => (['-'], r)
    | r => ([], r)
  match body with
  | [] => .error .truncated
  | c :: _ =>
    if c.isDigit then
      let (ds, rest) := spanDigits body
      .ok (sign ++ ds, rest)
    else .error (.invalid c .inExponent)

/-- Reads the fraction and exponent parts after the integer part of a number. -/
def readNumberTail (cs : List Char) : Except DecodeError (List Char × List Char) := do
  let (fraction, rest) ← match cs with
    | '.' :: r =>
      match r with
      | [] => .error .truncated
      | c :: _ =>
        if c.isDigit then
          let (ds, rest) := spanDigits r
          .ok ('.' :: ds, rest)
        else .error (.invalid c .afterPoint)
    | r => .ok ([], r)
  match rest with
  | e :: r =>
    if e == 'e' || e == 'E' then
      let (ex, rest) ← readExponent r
      .ok (fraction ++ e :: ex, rest)
    else .ok (fraction, rest)
  | [] => .ok (fraction, [])

/-- Reads a number whose first character is `-` or a digit; returns its literal text. -/
def readNumber (cs : List Char) : Except DecodeError (String × List Char) := do
  let (sign, body) := match cs with
    | '-' :: r => (['-'], r)
    | r => ([], r)
  let (whole, rest) ← match body with
    | [] => .error .truncated
    | '0' :: r => .ok (['0'], r)
    | c :: _ =>
      if c.isDigit then .ok (spanDigits body) else .error (.invalid c .inNumber)
  let (tail, rest) ← readNumberTail rest
  .ok (String.ofList (sign ++ whole ++ tail), rest)

/-- Reads the rest of a literal whose first letter has been read. -/
def readLiteral (word : String) (v : Value) : List Char → List Char → Except DecodeError (Value × List Char)
  | [], rest => .ok (v, rest)
  | _ :: _, [] => .error .truncated
  | w :: ws, c :: rest =>
    if c == w then readLiteral word v ws rest else .error (.invalid c (.inLiteral word w))

mutual

/-- Reads a value after optional blanks. -/
def readAny (fuel : Nat) (cs : List Char) : Except DecodeError (Value × List Char) :=
  match fuel with
  | 0 => .error .truncated
  | fuel + 1 =>
    match skipSpace cs with
    | [] => .error .truncated
    | c :: rest =>
      if c == '{' then readObject fuel rest
      else if c == '[' then readArray fuel rest
      else if c == '"' then (readString [] rest).map fun (s, r) => (.str s, r)
      else if c == '-' || c.isDigit then
        (readNumber (c :: rest)).map fun (s, r) => (.number s, r)
      else if c == 't' then readLiteral "true" (.bool true) "rue".toList rest
      else if c == 'f' then readLiteral "false" (.bool false) "alse".toList rest
      else if c == 'n' then readLiteral "null" .null "ull".toList rest
      else .error (.invalid c .valueStart)

/-- Reads the members of an array after `[`. -/
def readArray (fuel : Nat) (cs : List Char) : Except DecodeError (Value × List Char) :=
  match skipSpace cs with
  | ']' :: rest => .ok (.list [], rest)
  | _ => readElements fuel [] cs

/-- Reads elements, each followed by `,` or `]`. -/
def readElements (fuel : Nat) (acc : List Value) (cs : List Char) :
    Except DecodeError (Value × List Char) :=
  match fuel with
  | 0 => .error .truncated
  | fuel + 1 => do
    let (v, rest) ← readAny fuel cs
    match skipSpace rest with
    | [] => .error .truncated
    | c :: rest =>
      if c == ',' then readElements fuel (v :: acc) rest
      else if c == ']' then .ok (.list (v :: acc).reverse, rest)
      else .error (.invalid c .afterElement)

/-- Reads the members of an object after `{`. -/
def readObject (fuel : Nat) (cs : List Char) : Except DecodeError (Value × List Char) :=
  match skipSpace cs with
  | '}' :: rest => .ok (.obj [], rest)
  | _ => readMembers fuel [] cs

/-- Reads `"key": value` members, each followed by `,` or `}`. -/
def readMembers (fuel : Nat) (acc : Entries) (cs : List Char) :
    Except DecodeError (Value × List Char) :=
  match fuel with
  | 0 => .error .truncated
  | fuel + 1 =>
    match skipSpace cs with
    | [] => .error .truncated
    | '"' :: rest => do
      let (key, rest) ← readString [] rest
      match skipSpace rest with
      | [] => .error .truncated
      | ':' :: rest => do
        let (v, rest) ← readAny fuel rest
        let acc := Entries.insert key v acc
        match skipSpace rest with
        | [] => .error .truncated
        | c :: rest =>
          if c == ',' then readMembers fuel acc rest
          else if c == '}' then .ok (.obj acc, rest)
          else .error (.invalid c .afterPair)
      | c :: _ => .error (.invalid c .afterKey)
    | c :: _ => .error (.invalid c .keyStart)

end

/-- Reads one value from the front of a text and returns the characters after it. -/
def readValue (s : String) : Except DecodeError (Value × List Char) :=
  let cs := s.toList
  match skipSpace cs with
  | [] => .error .empty
  | _ => readAny (cs.length + 1) cs

/-- Whether more values follow: the next non-blank character exists and does not close an
array or object. -/
def moreFollows (rest : List Char) : Bool :=
  match skipSpace rest with
  | [] => false
  | c :: _ => c != ']' && c != '}'

end RowGate.Json
