/-!
# Blank characters and trimming

The Unicode white space, and trimming it from both ends.
-/

namespace Char

/-- Unicode white space. -/
def isBlank (c : Char) : Bool :=
  let n := c.toNat
  (0x09 ≤ n && n ≤ 0x0d) || n == 0x20 || n == 0x85 || n == 0xa0 || n == 0x1680 ||
    (0x2000 ≤ n && n ≤ 0x200a) || n == 0x2028 || n == 0x2029 || n == 0x202f ||
    n == 0x205f || n == 0x3000

end Char

namespace RowGate.Text

def dropBlank (cs : List Char) : List Char := cs.dropWhile Char.isBlank

def trim (s : String) : String :=
  String.ofList (dropBlank (dropBlank s.toList).reverse).reverse

end RowGate.Text
