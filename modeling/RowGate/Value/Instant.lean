/-!
# Instants

An instant is a count of seconds and nanoseconds since 1970-01-01T00:00:00Z. Its text is
RFC 3339 in UTC with the fraction of a second written only as far as its last non-zero
digit (`2024-05-01T10:00:00Z`, `2024-05-01T10:00:00.25Z`).
-/

namespace RowGate

/-- A point in time, `seconds + nanos / 10⁹` after the Unix epoch. -/
structure Instant where
  seconds : Int
  nanos : Nat
deriving DecidableEq, Repr, Inhabited

namespace Instant

def zero : Instant := ⟨-62135596800, 0⟩

def ofMillis (ms : Int) : Instant := ⟨ms / 1000, (ms % 1000).toNat * 1000000⟩

/-- Year, month and day of a count of days since 1970-01-01 in the proleptic Gregorian
calendar. -/
def civil (days : Int) : Int × Nat × Nat :=
  let z := days + 719468
  let era := z / 146097
  let doe := z - era * 146097
  let yoe := (doe - doe / 1460 + doe / 36524 - doe / 146096) / 365
  let doy := doe - (365 * yoe + yoe / 4 - yoe / 100)
  let mp := (5 * doy + 2) / 153
  let d := doy - (153 * mp + 2) / 5 + 1
  let m := if mp < 10 then mp + 3 else mp - 9
  let y := yoe + era * 400 + (if m ≤ 2 then 1 else 0)
  (y, m.toNat, d.toNat)

/-- `n` in decimal, padded with zeros to `width`. -/
def padded (width n : Nat) : String :=
  let s := Nat.repr n
  String.ofList (List.replicate (width - s.length) '0') ++ s

/-- The fraction of a second after its point, without trailing zeros. -/
def fraction (nanos : Nat) : String :=
  if nanos == 0 then ""
  else "." ++ String.ofList ((padded 9 nanos).toList.reverse.dropWhile (· == '0')).reverse

/-- RFC 3339 in UTC with as many fraction digits as needed. -/
def rfc3339 (t : Instant) : String :=
  let days := t.seconds / 86400
  let secs := (t.seconds % 86400).toNat
  let (y, m, d) := civil days
  let year := if y < 0 then "-" ++ padded 4 y.natAbs else padded 4 y.toNat
  year ++ "-" ++ padded 2 m ++ "-" ++ padded 2 d ++ "T" ++ padded 2 (secs / 3600) ++ ":" ++
    padded 2 (secs / 60 % 60) ++ ":" ++ padded 2 (secs % 60) ++ fraction t.nanos ++ "Z"

def daysOfCivil (y : Int) (m d : Nat) : Int :=
  let y := if m ≤ 2 then y - 1 else y
  let era := (if 0 ≤ y then y else y - 399) / 400
  let yoe := y - era * 400
  let mp : Int := if m > 2 then (m : Int) - 3 else (m : Int) + 9
  let doy := (153 * mp + 2) / 5 + (d : Int) - 1
  let doe := yoe * 365 + yoe / 4 - yoe / 100 + doy
  era * 146097 + doe - 719468

def ofCivil (y : Int) (m d h mi s nanos : Nat) : Instant :=
  ⟨daysOfCivil y m d * 86400 + (h * 3600 + mi * 60 + s : Nat), nanos⟩

/-- The date of an instant as `YYYY-MM-DD`. -/
def dateText (t : Instant) : String :=
  let (y, m, d) := civil (t.seconds / 86400)
  padded 4 y.natAbs ++ "-" ++ padded 2 m ++ "-" ++ padded 2 d

/-- The date and time of an instant as `YYYY-MM-DD HH:MM:SS`, with `precision` fraction
digits when positive. -/
def datetimeText (t : Instant) (precision : Nat) : String :=
  let secs := (t.seconds % 86400).toNat
  let frac := if precision == 0 then ""
    else "." ++ String.ofList ((padded 9 t.nanos).toList.take precision)
  dateText t ++ " " ++ padded 2 (secs / 3600) ++ ":" ++ padded 2 (secs / 60 % 60) ++ ":" ++
    padded 2 (secs % 60) ++ frac

end Instant

end RowGate
