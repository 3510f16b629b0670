import RowGate.Number.Decimal
/-!
# Double and single precision numbers

Numbers kept as bit patterns, with their shortest decimal text forms computed exactly.
-/

namespace RowGate.Number

/-- A double precision number as its bits. -/
structure Binary64 where
  bits : UInt64
deriving DecidableEq, Repr, Inhabited

/-- A single precision number as its bits. -/
structure Binary32 where
  bits : UInt32
deriving DecidableEq, Repr, Inhabited

namespace Format

def decimalOf (f : Format) (mantissa : Nat) (exponent : Int) : Decimal :=
  if mantissa == 0 then ⟨0, 0⟩ else Decimal.shortest f mantissa exponent

def finiteText (f : Format) (layout : Decimal → String) : Reading → Option String
  | .finite negative m e =>
    let body := if m == 0 then "0" else layout (Decimal.shortest f m e)
    some (if negative then "-" ++ body else body)
  | _ => none

/-- The text of a reading in a layout, with `NaN`, `+Inf` and `-Inf`. -/
def text (f : Format) (layout : Decimal → String) (r : Reading) : String :=
  match r with
  | .nan => "NaN"
  | .infinite negative => if negative then "-Inf" else "+Inf"
  | .finite .. => (f.finiteText layout r).getD ""

end Format

namespace Binary64

def reading (x : Binary64) : Reading := Format.binary64.read x.bits.toNat

def ofRatio (negative : Bool) (p q : Nat) : Binary64 :=
  ⟨(Format.binary64.nearest negative p q).toUInt64⟩

def ofInt (n : Int) : Binary64 := ofRatio (n < 0) n.natAbs 1

def nan : Binary64 := ⟨Format.binary64.quietNaN.toUInt64⟩

def infinity (negative : Bool) : Binary64 := ⟨(Format.binary64.infinity negative).toUInt64⟩

def general (x : Binary64) : String := Format.binary64.text Decimal.general x.reading

def fixed (x : Binary64) : String := Format.binary64.text Decimal.fixed x.reading

def script (x : Binary64) : Option String := Format.binary64.finiteText Decimal.script x.reading

/-- The integer a number equals when it is whole and below `2 ^ 53` in magnitude. -/
def toSmallInt? (x : Binary64) : Option Int :=
  match x.reading with
  | .finite negative m e =>
    let whole : Option Nat :=
      if 0 ≤ e then some (m * Nat.pow 2 e.toNat)
      else if m % Nat.pow 2 (-e).toNat == 0 then some (m / Nat.pow 2 (-e).toNat) else none
    match whole with
    | some n => if n < Nat.pow 2 53 then some (if negative then -(n : Int) else n) else none
    | none => none
  | _ => none

/-- Whether the number is not-a-number or infinite. -/
def isSpecial (x : Binary64) : Bool :=
  match x.reading with
  | .finite .. => false
  | _ => true

end Binary64

namespace Binary32

def ofRatio (negative : Bool) (p q : Nat) : Binary32 :=
  ⟨(Format.binary32.nearest negative p q).toUInt32⟩

def reading (x : Binary32) : Reading := Format.binary32.read x.bits.toNat

/-- The same number in double precision, which holds every single precision number. -/
def toBinary64 (x : Binary32) : Binary64 :=
  match x.reading with
  | .nan => Binary64.nan
  | .infinite negative => Binary64.infinity negative
  | .finite negative m e =>
    Binary64.ofRatio negative (m * Nat.pow 2 e.toNat) (Nat.pow 2 (-e).toNat)

def general (x : Binary32) : String := Format.binary32.text Decimal.general x.reading

def fixed (x : Binary32) : String := Format.binary32.text Decimal.fixed x.reading

def script (x : Binary32) : Option String := Format.binary32.finiteText Decimal.script x.reading

end Binary32

end RowGate.Number
