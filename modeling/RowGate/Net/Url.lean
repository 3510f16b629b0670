import RowGate.Text.Utf8
/-!
# URL text

Percent-encoding by part of a URL, hosts and ports, and reading escapes and queries back.
-/

namespace RowGate.Net

/-- The parts of a URL, which differ in the delimiters they write unescaped. -/
inductive Part where
  | host
  | path
  | pathSegment
  | userInfo
  | queryComponent
deriving DecidableEq, Repr

/-- Whether a byte stands for itself in a part. -/
def Part.keeps (p : Part) (b : UInt8) : Bool :=
  let c := Char.ofNat b.toNat
  b < 0x80 && (c.isAlphanum || "-_.~".contains c ||
    match p with
    | .host => "!$&'()*+,;=:[]<>\"".contains c
    | .path => "$&+,/:;=@".contains c
    | .pathSegment => "$&+:=@".contains c
    | .userInfo => "$&+,;=".contains c
    | .queryComponent => false)

def hexDigit (n : Nat) : Char :=
  if n < 10 then Char.ofNat ('0'.toNat + n) else Char.ofNat ('A'.toNat + n - 10)

def escapeByte (b : UInt8) : List Char := ['%', hexDigit (b.toNat / 16), hexDigit (b.toNat % 16)]

/-- Writes a text into a part of a URL. -/
def escape (p : Part) (s : String) : String :=
  String.ofList (s.toUTF8.toList.flatMap fun b =>
    if p == .queryComponent && b == 0x20 then ['+']
    else if p.keeps b then [Char.ofNat b.toNat]
    else escapeByte b)

/-- A query: pairs sorted by key, each key and value escaped, joined by `&`. -/
def encodeQuery (pairs : List (String × String)) : String :=
  "&".intercalate ((pairs.mergeSort fun a b => a.1 ≤ b.1).map fun (k, v) =>
    escape .queryComponent k ++ "=" ++ escape .queryComponent v)

/-- Sets a key of a query, replacing its value if it has one. -/
def setParam (pairs : List (String × String)) (k v : String) : List (String × String) :=
  if pairs.any (·.1 == k) then pairs.map fun (a, b) => if a == k then (a, v) else (a, b)
  else pairs ++ [(k, v)]

def joinHostPort (host port : String) : String :=
  if host.contains ':' then "[" ++ host ++ "]:" ++ port else host ++ ":" ++ port

def refusedEscape (inZone : Bool) (p : Part) (s : String) : Option String :=
  (s.toUTF8.toList.find? fun b =>
    !p.keeps b && b != 0x25 && (if inZone then b != 0x20 else b < 0x80)).map fun b =>
      String.ofList (escapeByte b)

/-- The escape that makes a joined host and port unreadable in a URL, if any. -/
def hostFault (hostPort : String) : Option String :=
  if hostPort.startsWith "[" then
    -- the bracketed address ends at the last `]`, and a zone starts at its first `%`
    let cs := hostPort.toList
    let close := cs.length - 1 - ((cs.reverse.findIdx? (· == ']')).getD 0)
    let inside := cs.take close
    let before := inside.takeWhile (· != '%')
    let zone := inside.drop before.length
    (refusedEscape false .host (String.ofList before)).orElse fun _ =>
      (refusedEscape true .host (String.ofList zone)).orElse fun _ =>
        refusedEscape false .host (String.ofList (cs.drop close))
  else refusedEscape false .host hostPort

/-- Why a text is no host and port. -/
inductive AddressError where
  | missingPort
  | tooManyColons
  | missingBracket
  | unexpectedOpen
  | unexpectedClose
deriving DecidableEq, Repr

/-- The text of an address error about `addr`. -/
def AddressError.message (e : AddressError) (addr : String) : String :=
  "address " ++ addr ++ ": " ++ match e with
    | .missingPort => "missing port in address"
    | .tooManyColons => "too many colons in address"
    | .missingBracket => "missing ']' in address"
    | .unexpectedOpen => "unexpected '[' in address"
    | .unexpectedClose => "unexpected ']' in address"

/-- Splits `host:port` or `[host]:port` at its last colon. -/
def splitHostPort (s : String) : Except AddressError (String × String) :=
  let cs := s.toList
  match cs.reverse.findIdx? (· == ':') with
  | none => .error .missingPort
  | some r =>
    let i := cs.length - 1 - r
    let port := String.ofList (cs.drop (i + 1))
    let checked (host : String) (j k : Nat) : Except AddressError (String × String) :=
      if (cs.drop j).contains '[' then .error .unexpectedOpen
      else if (cs.drop k).contains ']' then .error .unexpectedClose
      else .ok (host, port)
    if cs.head? == some '[' then
      match cs.findIdx? (· == ']') with
      | none => .error .missingBracket
      | some close =>
        if close + 1 == cs.length then .error .missingPort
        else if close + 1 == i then checked (String.ofList ((cs.take close).drop 1)) 1 (close + 1)
        else if cs[close + 1]? == some ':' then .error .tooManyColons
        else .error .missingPort
    else
      let host := cs.take i
      if host.contains ':' then .error .tooManyColons else checked (String.ofList host) 0 0

def hexValue? (c : Char) : Option Nat :=
  if c.isDigit then some (c.toNat - '0'.toNat)
  else if 'a' ≤ c && c ≤ 'f' then some (c.toNat - 'a'.toNat + 10)
  else if 'A' ≤ c && c ≤ 'F' then some (c.toNat - 'A'.toNat + 10)
  else none

def unescapeBytes (p : Part) : List Char → Option (List UInt8)
  | [] => some []
  | '%' :: a :: b :: rest => do
    let hi ← hexValue? a
    let lo ← hexValue? b
    pure ((hi * 16 + lo).toUInt8 :: (← unescapeBytes p rest))
  | '%' :: _ => none
  | c :: rest => do
    let own := if p == .queryComponent && c == '+' then [0x20] else c.toString.toUTF8.toList
    pure (own ++ (← unescapeBytes p rest))

def unescape (p : Part) (s : String) : Option String :=
  (unescapeBytes p s.toList).map Text.ofUtf8

/-- The pairs of a query, in order: each `&`-separated piece is split at its first `=` and
both sides are unescaped. Empty pieces, pieces holding `;` and pieces that do not unescape
are left out. -/
def parseQuery (q : String) : List (String × String) :=
  (q.splitOn "&").filterMap fun piece =>
    if piece.isEmpty || piece.contains ';' then none
    else
      let (k, v) := match piece.splitOn "=" with
        | k :: rest => (k, "=".intercalate rest)
        | [] => (piece, "")
      do pure (← unescape .queryComponent k, ← unescape .queryComponent v)

def unreachable (address : String) : String :=
  "dial tcp " ++ address ++ ": connect: network is unreachable"

end RowGate.Net
