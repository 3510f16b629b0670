/-!
# Base64

The standard alphabet (`A–Z a–z 0–9 + /`) with `=` padding: every three bytes become four
characters, and a last group of one or two bytes becomes two or three characters and padding.
-/

namespace RowGate.Text

def base64Alphabet : List Char :=
  "ABCDEFGHIJKLMNOPQRSTUVWXYZabcdefghijklmnopqrstuvwxyz0123456789+/".toList

def base64Char (n : Nat) : Char := base64Alphabet.getD (n % 64) '='

/-- Encodes bytes, three at a time. -/
def base64Encode : List UInt8 → List Char
  | [] => []
  | [a] =>
    let n := a.toNat * 65536
    [base64Char (n / 262144), base64Char (n / 4096), '=', '=']
  | [a, b] =>
    let n := a.toNat * 65536 + b.toNat * 256
    [base64Char (n / 262144), base64Char (n / 4096), base64Char (n / 64), '=']
  | a :: b :: c :: rest =>
    let n := a.toNat * 65536 + b.toNat * 256 + c.toNat
    [base64Char (n / 262144), base64Char (n / 4096), base64Char (n / 64), base64Char n] ++
      base64Encode rest

def base64Value (c : Char) : Option Nat := base64Alphabet.idxOf? c

/-- Decodes padded standard base64; `none` for text that is not. -/
def base64Decode (s : String) : Option (List UInt8) :=
  let rec go : List Char → Option (List UInt8)
    | [] => some []
    | [a, b, '=', '='] => do
      let n := (← base64Value a) * 262144 + (← base64Value b) * 4096
      if n % 65536 == 0 then some [(n / 65536).toUInt8] else none
    | [a, b, c, '='] => do
      let n := (← base64Value a) * 262144 + (← base64Value b) * 4096 + (← base64Value c) * 64
      if n % 256 == 0 then some [(n / 65536 % 256).toUInt8, (n / 256 % 256).toUInt8] else none
    | a :: b :: c :: d :: rest => do
      let n := (← base64Value a) * 262144 + (← base64Value b) * 4096 +
        (← base64Value c) * 64 + (← base64Value d)
      let tail ← go rest
      some ((n / 65536 % 256).toUInt8 :: (n / 256 % 256).toUInt8 :: (n % 256).toUInt8 :: tail)
    | _ => none
  go s.toList

end RowGate.Text
