/-!
# Reading UTF-8

Bytes read one character at a time, each malformed sequence read as `U+FFFD`.
-/

namespace RowGate.Text

def continuesIn (lo hi : UInt8) (b : UInt8) : Bool := lo ≤ b && b ≤ hi

def secondBounds (lead : UInt8) : UInt8 × UInt8 :=
  if lead == 0xe0 then (0xa0, 0xbf)
  else if lead == 0xed then (0x80, 0x9f)
  else if lead == 0xf0 then (0x90, 0xbf)
  else if lead == 0xf4 then (0x80, 0x8f)
  else (0x80, 0xbf)

def low6 (b : UInt8) : Nat := b.toNat % 64

/-- Reads characters, each ill-formed byte as the replacement character. -/
def decodeUtf8 : List UInt8 → List Char
  | [] => []
  | b :: rest =>
    if b < 0x80 then Char.ofNat b.toNat :: decodeUtf8 rest
    else if 0xc2 ≤ b && b ≤ 0xdf then
      match _h : rest with
      | c :: r =>
        if continuesIn 0x80 0xbf c then Char.ofNat ((b.toNat % 32) * 64 + low6 c) :: decodeUtf8 r
        else '�' :: decodeUtf8 rest
      | [] => ['�']
    else if 0xe0 ≤ b && b ≤ 0xef then
      match _h : rest with
      | c :: d :: r =>
        let (lo, hi) := secondBounds b
        if continuesIn lo hi c && continuesIn 0x80 0xbf d then
          Char.ofNat ((b.toNat % 16) * 4096 + low6 c * 64 + low6 d) :: decodeUtf8 r
        else '�' :: decodeUtf8 rest
      | _ => '�' :: decodeUtf8 rest
    else if 0xf0 ≤ b && b ≤ 0xf4 then
      match _h : rest with
      | c :: d :: e :: r =>
        let (lo, hi) := secondBounds b
        if continuesIn lo hi c && continuesIn 0x80 0xbf d && continuesIn 0x80 0xbf e then
          Char.ofNat ((b.toNat % 8) * 262144 + low6 c * 4096 + low6 d * 64 + low6 e) :: decodeUtf8 r
        else '�' :: decodeUtf8 rest
      | _ => '�' :: decodeUtf8 rest
    else '�' :: decodeUtf8 rest
termination_by bs => bs.length
decreasing_by all_goals (simp_all <;> omega)

def ofUtf8 (bytes : List UInt8) : String := String.ofList (decodeUtf8 bytes)

end RowGate.Text
