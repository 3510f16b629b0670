/-!
# IP address text

The dotted IPv4 form and the textual IPv6 forms, without zones.
-/

namespace RowGate.Net

def isOctet (cs : List Char) : Bool :=
  !cs.isEmpty && cs.all Char.isDigit && (cs.length == 1 || cs.head? != some '0') &&
    cs.foldl (fun n c => 10 * n + (c.toNat - '0'.toNat)) 0 ≤ 255

def isIpv4 (cs : List Char) : Bool :=
  let parts := cs.splitOn '.'
  parts.length == 4 && parts.all isOctet

def isHexChar (c : Char) : Bool := c.isDigit || ('a' ≤ c && c ≤ 'f') || ('A' ≤ c && c ≤ 'F')

def ipv6Groups : Nat → List Char → Bool → Option (Nat × List Char × Bool)
  | 0, s, e => some (0, s, e)
  | n + 1, s, e =>
    let hex := s.takeWhile isHexChar
    if hex.isEmpty || hex.length > 4 then none
    else match s.drop hex.length with
      | '.' :: _ =>
        -- an embedded IPv4 address fills the last two groups
        if (e || n + 1 == 2) && 2 ≤ n + 1 && isIpv4 s then some (n + 1 - 2, [], e) else none
      | [] => some (n, [], e)
      | [':'] => none
      | ':' :: ':' :: r =>
        if e then none else if r.isEmpty then some (n, [], true) else ipv6Groups n r true
      | ':' :: r => ipv6Groups n r e
      | _ => none

def isIpv6 (cs : List Char) : Bool :=
  let (e, s) := match cs with
    | ':' :: ':' :: r => (true, r)
    | s => (false, s)
  if e && s.isEmpty then true
  else match ipv6Groups 8 s e with
    | some (left, rest, e) => rest.isEmpty && (if left > 0 then e else !e)
    | none => false

/-- Whether a text is an IPv4 or IPv6 address; the first `.`, `:` or `%` decides the kind. -/
def isIpAddress (s : String) : Bool :=
  let cs := s.toList
  match cs.find? fun c => c == '.' || c == ':' || c == '%' with
  | some '.' => isIpv4 cs
  | some ':' => !cs.contains '%' && isIpv6 cs
  | _ => false

end RowGate.Net
