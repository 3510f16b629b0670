/-!
# XXH64

The 64-bit xxHash of a byte string with seed zero: four lanes absorb 32-byte stripes, the
lanes are merged, the length is added, the tail is mixed in 8, 4 and 1 byte steps, and a
final avalanche spreads every bit. All arithmetic is modulo `2 ^ 64`.
-/

namespace RowGate.Hash

def prime1 : UInt64 := 0x9E3779B185EBCA87
def prime2 : UInt64 := 0xC2B2AE3D27D4EB4F
def prime3 : UInt64 := 0x165667B19E3779F9
def prime4 : UInt64 := 0x85EBCA77C2B2AE63
def prime5 : UInt64 := 0x27D4EB2F165667C5

def rotl (x : UInt64) (r : UInt64) : UInt64 := (x <<< r) ||| (x >>> (64 - r))

def readLE (bytes : List UInt8) : UInt64 :=
  bytes.foldr (fun b acc => (acc <<< 8) ||| b.toUInt64) 0

def round (acc lane : UInt64) : UInt64 := rotl (acc + lane * prime2) 31 * prime1

def mergeRound (acc lane : UInt64) : UInt64 := (acc ^^^ round 0 lane) * prime1 + prime4

def stripes : List UInt8 → UInt64 × UInt64 × UInt64 × UInt64 → (UInt64 × UInt64 × UInt64 × UInt64) × List UInt8
  | bytes, (v1, v2, v3, v4) =>
    if _h : 32 ≤ bytes.length then
      let v1 := round v1 (readLE (bytes.take 8))
      let v2 := round v2 (readLE ((bytes.drop 8).take 8))
      let v3 := round v3 (readLE ((bytes.drop 16).take 8))
      let v4 := round v4 (readLE ((bytes.drop 24).take 8))
      stripes (bytes.drop 32) (v1, v2, v3, v4)
    else ((v1, v2, v3, v4), bytes)
termination_by bytes => bytes.length
decreasing_by simp; omega

/-- Mixes in the tail. -/
def tail : List UInt8 → UInt64 → UInt64
  | bytes, h =>
    if _h8 : 8 ≤ bytes.length then
      tail (bytes.drop 8) (rotl (h ^^^ round 0 (readLE (bytes.take 8))) 27 * prime1 + prime4)
    else if 4 ≤ bytes.length then
      tail (bytes.drop 4) (rotl (h ^^^ readLE (bytes.take 4) * prime1) 23 * prime2 + prime3)
    else match bytes with
      | [] => h
      | b :: rest => tail rest (rotl (h ^^^ b.toUInt64 * prime5) 11 * prime1)
termination_by bytes => bytes.length
decreasing_by all_goals simp_all <;> omega

def avalanche (h : UInt64) : UInt64 :=
  let h := (h ^^^ (h >>> 33)) * prime2
  let h := (h ^^^ (h >>> 29)) * prime3
  h ^^^ (h >>> 32)

def xxh64 (bytes : List UInt8) : UInt64 :=
  let n := bytes.length
  let (h, rest) :=
    if 32 ≤ n then
      let ((v1, v2, v3, v4), rest) := stripes bytes (prime1 + prime2, prime2, 0, 0 - prime1)
      let h := rotl v1 1 + rotl v2 7 + rotl v3 12 + rotl v4 18
      let h := mergeRound (mergeRound (mergeRound (mergeRound h v1) v2) v3) v4
      (h, rest)
    else (prime5, bytes)
  avalanche (tail rest (h + n.toUInt64))

def xxh64String (s : String) : UInt64 := xxh64 s.toUTF8.toList

def hexText (n : Nat) : String := String.ofList (Nat.toDigits 16 n)

end RowGate.Hash
