/-!
# Binary floating point formats

IEEE 754 formats by their field widths: reading bit patterns, and rounding exact ratios to the
nearest representable number, in exact natural arithmetic.
-/

namespace RowGate.Number

/-- An IEEE 754 binary interchange format, by the widths of its fields. -/
structure Format where
  /-- Bits of the stored fraction. -/
  fractionBits : Nat
  /-- Bits of the biased exponent. -/
  exponentBits : Nat

namespace Format

def binary64 : Format := ⟨52, 11⟩

def binary32 : Format := ⟨23, 8⟩

def bias (f : Format) : Nat := Nat.pow 2 (f.exponentBits - 1) - 1

def topExponent (f : Format) : Nat := Nat.pow 2 f.exponentBits - 1

def leastExponent (f : Format) : Int := 1 - (f.bias : Int) - f.fractionBits

def signBit (f : Format) : Nat := f.fractionBits + f.exponentBits

end Format

/-- What a bit pattern stands for. -/
inductive Reading where
  | nan
  | infinite (negative : Bool)
  /-- The number `(-1) ^ negative · mantissa · 2 ^ exponent`. -/
  | finite (negative : Bool) (mantissa : Nat) (exponent : Int)
deriving DecidableEq, Repr

namespace Format

/-- Reads a bit pattern of the format. -/
def read (f : Format) (bits : Nat) : Reading :=
  let fraction := bits % Nat.pow 2 f.fractionBits
  let biased := bits / Nat.pow 2 f.fractionBits % Nat.pow 2 f.exponentBits
  let negative := bits / Nat.pow 2 f.signBit % 2 == 1
  if biased == f.topExponent then
    if fraction == 0 then .infinite negative else .nan
  else if biased == 0 then .finite negative fraction f.leastExponent
  else .finite negative (fraction + Nat.pow 2 f.fractionBits) ((biased : Int) + f.leastExponent - 1)

end Format

def floorLog2 (p q : Nat) : Int :=
  let k : Int := (p.log2 : Int) - q.log2
  if 0 ≤ k then (if q * Nat.pow 2 k.toNat ≤ p then k else k - 1)
  else (if q ≤ p * Nat.pow 2 (-k).toNat then k else k - 1)

def roundHalfEven (p q : Nat) : Nat :=
  let m := p / q
  let r := p % q
  if q < 2 * r || (2 * r == q && m % 2 == 1) then m + 1 else m

namespace Format

def infinity (f : Format) (negative : Bool) : Nat :=
  (if negative then Nat.pow 2 f.signBit else 0) + f.topExponent * Nat.pow 2 f.fractionBits

/-- The bits of the number nearest to `p / q` with the given sign; a tie goes to the even
mantissa and a magnitude past the largest finite number gives infinity. -/
def nearest (f : Format) (negative : Bool) (p q : Nat) : Nat :=
  let sign := if negative then Nat.pow 2 f.signBit else 0
  if p == 0 || q == 0 then sign
  else
    let e := max (floorLog2 p q - f.fractionBits) f.leastExponent
    let m := if 0 ≤ e then roundHalfEven p (q * Nat.pow 2 e.toNat)
      else roundHalfEven (p * Nat.pow 2 (-e).toNat) q
    let (m, e) := if m == Nat.pow 2 (f.fractionBits + 1) then (m / 2, e + 1) else (m, e)
    if m < Nat.pow 2 f.fractionBits then sign + m
    else
      let biased := e - f.leastExponent + 1
      if (f.topExponent : Int) ≤ biased then f.infinity negative
      else sign + biased.toNat * Nat.pow 2 f.fractionBits + (m - Nat.pow 2 f.fractionBits)

/-- The bits of `(-1) ^ negative · mantissa · 10 ^ exponent` rounded into the format.
Magnitudes of `10 ^ 400` and more are infinite and those below `10 ^ -400` are zero in both
formats of this library, so the exact arithmetic stays bounded. -/
def ofDecimal (f : Format) (negative : Bool) (mantissa : Nat) (exponent : Int) : Nat :=
  let digits : Int := (Nat.repr mantissa).length
  if mantissa == 0 || digits + exponent < -400 then f.nearest negative 0 1
  else if 400 < digits - 1 + exponent then f.infinity negative
  else if 0 ≤ exponent then f.nearest negative (mantissa * Nat.pow 10 exponent.toNat) 1
  else f.nearest negative mantissa (Nat.pow 10 (-exponent).toNat)

def quietNaN (f : Format) : Nat := f.topExponent * Nat.pow 2 f.fractionBits + Nat.pow 2 (f.fractionBits - 1)

end Format

end RowGate.Number
