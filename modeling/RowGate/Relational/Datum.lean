import RowGate.Number.Parse
import RowGate.Value.Instant
import RowGate.Value.Basic
import RowGate.Relational.Type
/-!
# Cells of the relational store

The data a cell holds, exact decimals, and texts read in numeric and temporal contexts.
-/

namespace RowGate.Relational

open Number

/-- An exact decimal `unscaled / 10 ^ scale`. -/
structure Fixed where
  unscaled : Int
  scale : Nat
deriving DecidableEq, Repr, Inhabited

namespace Fixed

def ofInt (n : Int) : Fixed := ⟨n, 0⟩

def align (a b : Fixed) : Int × Int := (a.unscaled * Nat.pow 10 b.scale, b.unscaled * Nat.pow 10 a.scale)

def cmp (a b : Fixed) : Ordering := let (x, y) := align a b; compare x y

/-- The decimal with `s` digits after the point, rounding half away from zero. -/
def rescale (d : Fixed) (s : Nat) : Fixed :=
  if d.scale ≤ s then ⟨d.unscaled * Nat.pow 10 (s - d.scale), s⟩
  else
    let q := Nat.pow 10 (d.scale - s)
    let r := (d.unscaled.natAbs + q / 2) / q
    ⟨if d.unscaled < 0 then -(r : Int) else r, s⟩

/-- The text with exactly `scale` digits after the point. -/
def text (d : Fixed) : String :=
  let digits := (Nat.repr d.unscaled.natAbs).toList
  let digits := List.replicate (d.scale + 1 - digits.length) '0' ++ digits
  let whole := digits.take (digits.length - d.scale)
  let frac := digits.drop (digits.length - d.scale)
  let sign := if d.unscaled < 0 then "-" else ""
  sign ++ String.ofList whole ++ (if d.scale == 0 then "" else "." ++ String.ofList frac)

def toBinary64 (d : Fixed) : Binary64 := Binary64.ofRatio (d.unscaled < 0) d.unscaled.natAbs (Nat.pow 10 d.scale)

/-- The decimal `± digits · 10 ^ exponent`. -/
def ofDigits (negative : Bool) (digits : Nat) (exponent : Int) : Fixed :=
  let n : Int := if negative then -(digits : Int) else digits
  if 0 ≤ exponent then ⟨n * Nat.pow 10 exponent.toNat, 0⟩ else ⟨n, (-exponent).toNat⟩

/-- The decimal of the shortest digits of a double; zero for a number that is not finite. -/
def ofBinary64 (x : Binary64) : Fixed :=
  match x.reading with
  | .finite negative m e =>
    if m == 0 then ⟨0, 0⟩
    else
      let d := Decimal.shortest Format.binary64 m e
      ofDigits negative d.digits d.exponent
  | _ => ⟨0, 0⟩

def isZero (d : Fixed) : Bool := d.unscaled == 0

end Fixed

/-- The exact value of a finite double as a sign, numerator and denominator. -/
def ratioOf (x : Binary64) : Bool × Nat × Nat :=
  match x.reading with
  | .finite negative m e =>
    if 0 ≤ e then (negative, m * Nat.pow 2 e.toNat, 1) else (negative, m, Nat.pow 2 (-e).toNat)
  | .infinite negative => (negative, Nat.pow 2 2000, 1)
  | .nan => (false, 0, 1)

/-- The exact order of two doubles; not-a-number counts as zero. -/
def compareDoubles (a b : Binary64) : Ordering :=
  let (na, pa, qa) := ratioOf a
  let (nb, pb, qb) := ratioOf b
  let x : Int := if na then -((pa * qb : Nat) : Int) else ((pa * qb : Nat) : Int)
  let y : Int := if nb then -((pb * qa : Nat) : Int) else ((pb * qa : Nat) : Int)
  compare x y

/-- A datum of a cell. -/
inductive Datum where
  | null
  /-- An integer of any integer type, a year, a bit field or a truth value. -/
  | int (n : Int)
  | double (x : Binary64)
  | single (x : Binary32)
  | fixed (d : Fixed)
  | text (s : String)
  | bytes (b : List UInt8)
  | instant (t : Instant)
  | json (doc : Value)
deriving Repr, Inhabited

/-- The longest numeric prefix of a text after leading spaces: sign, digits with at most one
point, and an exponent; as a sign, digits and a power of ten. -/
def numericPrefix (s : String) : Bool × Nat × Int :=
  let cs := s.toList.dropWhile fun c => c == ' ' || c == '\t' || c == '\n' || c == '\r'
  let (_, negative, body) := splitSign cs
  let whole := body.takeWhile Char.isDigit
  let rest := body.dropWhile Char.isDigit
  let (fraction, rest) := match rest with
    | '.' :: r => (r.takeWhile Char.isDigit, r.dropWhile Char.isDigit)
    | r => ([], r)
  if whole.isEmpty && fraction.isEmpty then (false, 0, 0)
  else
    let e : Int := match rest with
      | c :: r =>
        if c == 'e' || c == 'E' then
          let (_, en, ds) := splitSign r
          let ds := ds.takeWhile Char.isDigit
          if ds.isEmpty then 0 else if en then -(digitsValue ds : Int) else digitsValue ds
        else 0
      | [] => 0
    (negative, digitsValue (whole ++ fraction), e - fraction.length)

def takeDigits (n : Nat) (cs : List Char) : Option (Nat × List Char) :=
  let ds := (cs.takeWhile Char.isDigit).take n
  if ds.isEmpty then none else some (digitsValue ds, cs.drop ds.length)

/-- Reads a temporal text: a date, optionally with a time of day and a fraction. -/
def parseTemporal (s : String) : Option Instant := do
  let cs := (s.toList.dropWhile (· == ' ')).reverse.dropWhile (· == ' ') |>.reverse
  let (y, cs) ← takeDigits 4 cs
  let cs ← match cs with
    | '-' :: r => some r
    | _ => none
  let (m, cs) ← takeDigits 2 cs
  let cs ← match cs with
    | '-' :: r => some r
    | _ => none
  let (d, cs) ← takeDigits 2 cs
  if m < 1 || 12 < m || d < 1 || 31 < d then none
  let ofTime : List Char → Option (Nat × Nat × Nat × Nat) := fun cs => do
    let (h, cs) ← takeDigits 2 cs
    let cs ← match cs with
      | ':' :: r => some r
      | _ => none
    let (mi, cs) ← takeDigits 2 cs
    let cs ← match cs with
      | ':' :: r => some r
      | _ => none
    let (sec, cs) ← takeDigits 2 cs
    let (nanos, cs) := match cs with
      | '.' :: r =>
        let ds := r.takeWhile Char.isDigit
        (digitsValue ((ds ++ List.replicate 9 '0').take 9), r.dropWhile Char.isDigit)
      | r => (0, r)
    let cs := match cs with
      | ['Z'] => []
      | r => r
    if cs.isEmpty && h < 24 && mi < 60 && sec < 60 then some (h, mi, sec, nanos) else none
  match cs with
  | [] => some (Instant.ofCivil y m d 0 0 0 0)
  | c :: rest =>
    if c == ' ' || c == 'T' then
      let (h, mi, sec, nanos) ← ofTime rest
      some (Instant.ofCivil y m d h mi sec nanos)
    else none

end RowGate.Relational
