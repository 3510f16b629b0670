import RowGate.Number.Binary
/-!
# Shortest decimal digits and their layouts

The shortest decimal inside a binary number's rounding interval, found grid by grid in exact
arithmetic, and its fixed, scientific and mixed layouts.
-/

namespace RowGate.Number

/-- A decimal `digits · 10 ^ exponent`; `digits` has no trailing zero unless it is zero. -/
structure Decimal where
  digits : Nat
  exponent : Int
deriving DecidableEq, Repr

def floorLog10 (p q : Nat) : Int :=
  let k : Int := ((Nat.repr p).length : Int) - (Nat.repr q).length
  if 0 ≤ k then (if q * Nat.pow 10 k.toNat ≤ p then k else k - 1)
  else (if q ≤ p * Nat.pow 10 (-k).toNat then k else k - 1)

namespace Decimal

def trimZeros : Nat → Decimal → Decimal
  | 0, d => d
  | fuel + 1, d =>
    if d.digits != 0 && d.digits % 10 == 0 then trimZeros fuel ⟨d.digits / 10, d.exponent + 1⟩
    else d

/-- The rounding interval of `mantissa · 2 ^ exponent` in quarter units of the last place:
the number is `4 · mantissa`, the interval runs from `low` to `high`, and `closed` says
whether its ends belong to it. -/
structure Interval where
  low : Nat
  value : Nat
  high : Nat
  /-- The unit is `2 ^ scale`. -/
  scale : Int
  closed : Bool

/-- The interval of a positive finite number of format `f`. The gap below the smallest
mantissa of a binade is half the gap above it. -/
def interval (f : Format) (mantissa : Nat) (exponent : Int) : Interval :=
  let narrow := mantissa == Nat.pow 2 f.fractionBits && f.leastExponent < exponent
  { low := if narrow then 4 * mantissa - 1 else 4 * mantissa - 2
    value := 4 * mantissa
    high := 4 * mantissa + 2
    scale := exponent - 2
    closed := mantissa % 2 == 0 }

def gridPoint (iv : Interval) (k : Int) : Option Nat :=
  let a := Nat.pow 10 k.toNat * Nat.pow 2 (-iv.scale).toNat
  let b := Nat.pow 2 iv.scale.toNat * Nat.pow 10 (-k).toNat
  let inside (j : Nat) : Bool :=
    if iv.closed then b * iv.low ≤ a * j && a * j ≤ b * iv.high
    else b * iv.low < a * j && a * j < b * iv.high
  let below := b * iv.value / a
  let above := below + 1
  match inside below, inside above with
  | true, true =>
    let dBelow := b * iv.value - a * below
    let dAbove := a * above - b * iv.value
    if dBelow < dAbove then some below
    else if dAbove < dBelow then some above
    else if below % 2 == 0 then some below else some above
  | true, false => some below
  | false, true => some above
  | false, false => none

/-- Tries the grids `10 ^ k`, `10 ^ (k - 1)`, … in turn. -/
def search (iv : Interval) : Nat → Int → Decimal
  | 0, k => ⟨0, k⟩
  | fuel + 1, k =>
    match gridPoint iv k with
    | some j => ⟨j, k⟩
    | none => search iv fuel (k - 1)

/-- The shortest decimal of the positive number `mantissa · 2 ^ exponent` of format `f`. -/
def shortest (f : Format) (mantissa : Nat) (exponent : Int) : Decimal :=
  let iv := interval f mantissa exponent
  let top := floorLog10 (iv.high * Nat.pow 2 iv.scale.toNat) (Nat.pow 2 (-iv.scale).toNat)
  trimZeros 40 (search iv 40 top)

def digitChars (d : Decimal) : List Char := (Nat.repr d.digits).toList

def point (d : Decimal) : Int := (d.digitChars.length : Int) + d.exponent

def scientificExponent (d : Decimal) : Int := d.point - 1

/-- Positional layout with every digit: `123.45`, `0.001`, `1200`. -/
def fixed (d : Decimal) : String :=
  let ds := d.digitChars
  let p := d.point
  let whole := if 0 < p then (List.range p.toNat).map fun i => ds.getD i '0' else ['0']
  let places := (ds.length : Int) - p
  let fraction := if 0 < places then
      '.' :: (List.range places.toNat).map fun (i : Nat) =>
        let j := p + (i : Int)
        if j < 0 then '0' else ds.getD j.toNat '0'
    else []
  String.ofList (whole ++ fraction)

/-- How an exponent is written after the mark `e`. -/
structure ExponentStyle where
  /-- Least number of exponent digits, padded with zeros. -/
  width : Nat
  /-- Whether a non-negative exponent carries `+`. -/
  plus : Bool

def scientific (style : ExponentStyle) (d : Decimal) : String :=
  let ds := d.digitChars
  let x := d.scientificExponent
  let mantissa := match ds with
    | [] => ['0']
    | [c] => [c]
    | c :: rest => c :: '.' :: rest
  let sign := if x < 0 then ['-'] else if style.plus then ['+'] else []
  let body := (Nat.repr x.natAbs).toList
  let padded := List.replicate (style.width - body.length) '0' ++ body
  String.ofList (mantissa ++ 'e' :: sign ++ padded)

/-- The mixed layout of the shortest general format: an exponent when the scientific exponent
is below `-4` or at least `6`, two exponent digits at least and always a sign. -/
def general (d : Decimal) : String :=
  let x := d.scientificExponent
  if x < -4 || 6 ≤ x then scientific ⟨2, true⟩ d else fixed d

/-- The mixed layout of script-language number printing: an exponent when the scientific
exponent is below `-6` or at least `21`; a positive exponent has a sign and two digits at
least, a negative one no padding. -/
def script (d : Decimal) : String :=
  let x := d.scientificExponent
  if x < -6 then scientific ⟨1, true⟩ d
  else if 21 ≤ x then scientific ⟨2, true⟩ d
  else fixed d

end Decimal

end RowGate.Number
