import RowGate.Number.Float
import RowGate.Text.Quoted
/-!
# Reading numbers from text

Integers, unsigned integers and floating point texts (decimal, hexadecimal, infinities and
not-a-number), rounded to the nearest number of the format.
-/

namespace RowGate.Number

/-- Why a text is not a number of the wanted kind. -/
inductive ParseFailure where
  | malformed
  | range
deriving DecidableEq, Repr

/-- The reason as printed after the text. -/
def ParseFailure.reason : ParseFailure → String
  | .malformed => "invalid syntax"
  | .range => "value out of range"

def ParseFailure.message (e : ParseFailure) (reader text : String) : String :=
  "strconv." ++ reader ++ ": parsing " ++ Text.quote text ++ ": " ++ e.reason

def digitsValue (cs : List Char) : Nat :=
  cs.foldl (fun n c => 10 * n + (c.toNat - '0'.toNat)) 0

/-- The value of a hex digit. -/
def hexValue (c : Char) : Option Nat :=
  if c.isDigit then some (c.toNat - '0'.toNat)
  else if 'a' ≤ c && c ≤ 'f' then some (c.toNat - 'a'.toNat + 10)
  else if 'A' ≤ c && c ≤ 'F' then some (c.toNat - 'A'.toNat + 10)
  else none

/-- Splits an optional leading sign off. -/
def splitSign : List Char → Bool × Bool × List Char
  | '+' :: rest => (true, false, rest)
  | '-' :: rest => (true, true, rest)
  | cs => (false, false, cs)

/-- Reads a signed decimal integer in `[lo, hi]`. -/
def parseIntIn (lo hi : Int) (s : String) : Except ParseFailure Int :=
  let (_, negative, body) := splitSign s.toList
  if body.isEmpty || !body.all Char.isDigit then .error .malformed
  else
    let n : Int := digitsValue body
    let v := if negative then -n else n
    if v < lo || hi < v then .error .range else .ok v

def parseInt64 (s : String) : Except ParseFailure Int :=
  parseIntIn (-(Nat.pow 2 63)) (Nat.pow 2 63 - 1) s

/-- Reads an unsigned integer below `bound`: digits only. -/
def parseNatBelow (bound : Nat) (s : String) : Except ParseFailure Nat :=
  let cs := s.toList
  if cs.isEmpty || !cs.all Char.isDigit then .error .malformed
  else
    let n := digitsValue cs
    if bound ≤ n then .error .range else .ok n

def parseUInt64 (s : String) : Except ParseFailure Nat := parseNatBelow (Nat.pow 2 64) s

/-- Reads a truth value: `1 t T TRUE true True` and `0 f F FALSE false False`. -/
def parseBool (s : String) : Except ParseFailure Bool :=
  if ["1", "t", "T", "TRUE", "true", "True"].contains s then .ok true
  else if ["0", "f", "F", "FALSE", "false", "False"].contains s then .ok false
  else .error .malformed

/-- The parts of a decimal floating point text: mantissa digits, the count of digits after
the point, and the written exponent. -/
structure DecimalText where
  digits : List Char
  fractionDigits : Nat
  exponent : Int

def readDecimalText (cs : List Char) : Option DecimalText :=
  let whole := cs.takeWhile Char.isDigit
  let rest := cs.dropWhile Char.isDigit
  let (fraction, rest) := match rest with
    | '.' :: r => (r.takeWhile Char.isDigit, r.dropWhile Char.isDigit)
    | r => ([], r)
  if whole.isEmpty && fraction.isEmpty then none
  else
    match rest with
    | [] => some ⟨whole ++ fraction, fraction.length, 0⟩
    | c :: r =>
      if c == 'e' || c == 'E' then
        let (_, negative, ds) := splitSign r
        if ds.isEmpty || !ds.all Char.isDigit then none
        else
          let e : Int := digitsValue ds
          some ⟨whole ++ fraction, fraction.length, if negative then -e else e⟩
      else none

def readHexText (cs : List Char) : Option (Nat × Nat × Int) :=
  let isHex (c : Char) : Bool := (hexValue c).isSome
  let value (ds : List Char) : Nat := ds.foldl (fun n c => 16 * n + (hexValue c).getD 0) 0
  let whole := cs.takeWhile isHex
  let rest := cs.dropWhile isHex
  let (fraction, rest) := match rest with
    | '.' :: r => (r.takeWhile isHex, r.dropWhile isHex)
    | r => ([], r)
  if whole.isEmpty && fraction.isEmpty then none
  else match rest with
    | c :: r =>
      if c == 'p' || c == 'P' then
        let (_, negative, ds) := splitSign r
        if ds.isEmpty || !ds.all Char.isDigit then none
        else
          let e : Int := digitsValue ds
          some (value (whole ++ fraction), fraction.length, if negative then -e else e)
      else none
    | [] => none

def spellsIgnoringCase (cs : List Char) (word : String) : Bool :=
  cs.map Char.toLower == word.toList

namespace Format

/-- Reads a floating point text into the format: the bits, or why it is not a number.
A finite text whose value rounds past the largest finite number is out of range. -/
def parse (f : Format) (s : String) : Except ParseFailure Nat :=
  let (signed, negative, body) := splitSign s.toList
  if spellsIgnoringCase body "inf" || spellsIgnoringCase body "infinity" then
    .ok (f.infinity negative)
  else if !signed && spellsIgnoringCase body "nan" then .ok f.quietNaN
  else
    let decimal := (readDecimalText body).map fun t =>
      f.ofDecimal negative (digitsValue t.digits) (t.exponent - t.fractionDigits)
    let bits : Option Nat := match body with
      | '0' :: x :: hex =>
        if x == 'x' || x == 'X' then
          (readHexText hex).map fun (m, places, e) =>
            let e := e - 4 * (places : Int)
            if 0 ≤ e then f.nearest negative (m * Nat.pow 2 e.toNat) 1
            else f.nearest negative m (Nat.pow 2 (-e).toNat)
        else decimal
      | _ => decimal
    match bits with
    | none => .error .malformed
    | some b =>
      match f.read b with
      | .infinite _ => .error .range
      | _ => .ok b

end Format

namespace Binary64

def parse (s : String) : Except ParseFailure Binary64 :=
  (Format.binary64.parse s).map fun b => ⟨b.toUInt64⟩

end Binary64

namespace Binary32

def parse (s : String) : Except ParseFailure Binary32 :=
  (Format.binary32.parse s).map fun b => ⟨b.toUInt32⟩

end Binary32

end RowGate.Number
