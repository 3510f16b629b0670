import RowGate.Number.Binary
/-!
# Durations

Signed 64-bit nanosecond counts, their text and reading it back.
-/

namespace RowGate.Time

/-- A span of time in nanoseconds, in the signed 64-bit range. -/
structure Duration where
  nanos : Int
deriving DecidableEq, Repr, Inhabited

namespace Duration

def wrap (n : Int) : Int := Int.bmod n (Nat.pow 2 64)

def second : Nat := 1000000000

def ofSeconds (n : Int) : Duration := ⟨wrap (n * second)⟩

def ofMillis (n : Int) : Duration := ⟨wrap (n * 1000000)⟩

/-- The digits of `v / 10 ^ places` after the point, without trailing zeros, with the point;
empty when they are all zero. -/
def fraction (v places : Nat) : String :=
  if v % Nat.pow 10 places == 0 then ""
  else
    let digits := (Nat.repr (v % Nat.pow 10 places)).toList
    let padded := List.replicate (places - digits.length) '0' ++ digits
    "." ++ String.ofList (padded.reverse.dropWhile (· == '0')).reverse

def magnitudeText (u : Nat) : String :=
  if u == 0 then "0s"
  else if u < 1000 then Nat.repr u ++ "ns"
  else if u < 1000000 then Nat.repr (u / 1000) ++ fraction u 3 ++ "µs"
  else if u < second then Nat.repr (u / 1000000) ++ fraction u 6 ++ "ms"
  else
    let secs := u / second
    let hours := if secs / 3600 > 0 then Nat.repr (secs / 3600) ++ "h" else ""
    let minutes := if secs / 60 > 0 then hours ++ Nat.repr (secs / 60 % 60) ++ "m" else ""
    minutes ++ Nat.repr (secs % 60) ++ fraction u 9 ++ "s"

def text (d : Duration) : String :=
  (if d.nanos < 0 then "-" else "") ++ magnitudeText d.nanos.natAbs

def unitNanos : String → Option Nat
  | "ns" => some 1
  | "us" | "µs" | "μs" => some 1000
  | "ms" => some 1000000
  | "s" => some second
  | "m" => some (60 * second)
  | "h" => some (3600 * second)
  | _ => none

def nearestRatio (p q : Nat) : Nat × Nat :=
  match Number.Format.binary64.read (Number.Format.binary64.nearest false p q) with
  | .finite _ m e => if 0 ≤ e then (m * Nat.pow 2 e.toNat, 1) else (m, Nat.pow 2 (-e).toNat)
  | _ => (0, 1)

def fractionNanos (f scale unit : Nat) : Nat :=
  let a := nearestRatio f 1
  let b := nearestRatio unit scale
  let c := nearestRatio (a.1 * b.1) (a.2 * b.2)
  c.1 / c.2

def leadingInt (cs : List Char) : Option Nat × List Char :=
  let ds := cs.takeWhile Char.isDigit
  let rest := cs.dropWhile Char.isDigit
  let v := ds.foldl (fun acc c => acc.bind fun x =>
    if x > Nat.pow 2 63 / 10 then none
    else
      let y := x * 10 + (c.toNat - '0'.toNat)
      if y > Nat.pow 2 63 then none else some y) (some 0)
  (v, rest)

def leadingFraction (cs : List Char) : Nat × Nat × List Char :=
  let ds := cs.takeWhile Char.isDigit
  let rest := cs.dropWhile Char.isDigit
  let (x, scale, _) := ds.foldl (fun (acc : Nat × Nat × Bool) c =>
    let (x, scale, saturated) := acc
    if saturated then acc
    else if x > (Nat.pow 2 63 - 1) / 10 then (x, scale, true)
    else
      let y := x * 10 + (c.toNat - '0'.toNat)
      if y > Nat.pow 2 63 then (x, scale, true) else (y, scale * 10, false)) (0, 1, false)
  (x, scale, rest)

/-- Why a text is not a duration. -/
inductive ParseError where
  | invalid (text : String)
  | missingUnit (text : String)
  | unknownUnit (unit text : String)
deriving DecidableEq, Repr

/-- Reads one term, digits with an optional fraction and a unit: its nanoseconds (at most
`2 ^ 63`) and the rest of the text. -/
def readTerm (orig : String) (s : List Char) : Except ParseError (Nat × List Char) :=
  match leadingInt s with
  | (none, _) => .error (.invalid orig)
  | (some v, afterInt) =>
    let pre := afterInt.length != s.length
    let (f, scale, afterFrac, post) := match afterInt with
      | '.' :: r => let (f, scale, r') := leadingFraction r; (f, scale, r', r'.length != r.length)
      | r => (0, 1, r, false)
    if !pre && !post then .error (.invalid orig)
    else
      let isNumeral := fun x => x == '.' || x.isDigit
      let unitChars := afterFrac.takeWhile fun x => !isNumeral x
      let rest := afterFrac.dropWhile fun x => !isNumeral x
      if unitChars.isEmpty then .error (.missingUnit orig)
      else match unitNanos (String.ofList unitChars) with
        | none => .error (.unknownUnit (String.ofList unitChars) orig)
        | some unit =>
          if v > Nat.pow 2 63 / unit then .error (.invalid orig)
          else
            let v := v * unit + (if f > 0 then fractionNanos f scale unit else 0)
            if v > Nat.pow 2 63 then .error (.invalid orig) else .ok (v, rest)

/-- The sum of the terms of a duration text, at most `2 ^ 63` nanoseconds. -/
def readTerms (orig : String) : List Char → Nat → Except ParseError Nat
  | [], d => .ok d
  | c :: cs, d =>
    if !(c == '.' || c.isDigit) then .error (.invalid orig)
    else match readTerm orig (c :: cs) with
      | .error e => .error e
      | .ok (v, rest) =>
        if d + v > Nat.pow 2 63 then .error (.invalid orig)
        -- a term is never empty, so the rest is shorter
        else if _h : rest.length < cs.length + 1 then readTerms orig rest (d + v)
        else .error (.invalid orig)
termination_by cs => cs.length

/-- Reads a duration. -/
def parse (s : String) : Except ParseError Duration :=
  let (neg, body) := match s.toList with
    | '-' :: r => (true, r)
    | '+' :: r => (false, r)
    | r => (false, r)
  if body == ['0'] then .ok ⟨0⟩
  else if body.isEmpty then .error (.invalid s)
  else match readTerms s body 0 with
    | .error e => .error e
    | .ok d =>
      if neg then .ok ⟨wrap (-(d : Int))⟩
      else if d > Nat.pow 2 63 - 1 then .error (.invalid s)
      else .ok ⟨d⟩

end Duration

end RowGate.Time
