import RowGate.Http.Message
/-!
# HTTP/1.1 on a byte stream

Requests read from a byte stream and responses written to one, as HTTP/1.1 frames them.
-/

namespace RowGate.Http

def splitLine (bs : List UInt8) : Option (List UInt8 × List UInt8) :=
  match bs.span (· != 10) with
  | (_, []) => none
  | (line, _ :: rest) => some (if line.getLast? == some 13 then line.dropLast else line, rest)

def decodeUtf8 (bs : List UInt8) : Option String := String.fromUTF8? ⟨bs.toArray⟩

def decimal? (s : String) : Option Nat :=
  if !s.isEmpty && s.all Char.isDigit then some (s.foldl (fun n c => 10 * n + (c.toNat - '0'.toNat)) 0)
  else none

def headerOf (line : String) : Option (String × String) :=
  match line.splitOn ":" with
  | name :: rest@(_ :: _) =>
    if name.isEmpty then none else some (name, (":".intercalate rest).trimAscii.copy)
  | _ => none

def readHeaders : Nat → List (String × String) → List UInt8 → Option (List (String × String) × List UInt8)
  | 0, _, _ => none
  | fuel + 1, acc, bs => do
    let (line, rest) ← splitLine bs
    if line.isEmpty then pure (acc.reverse, rest)
    else readHeaders fuel ((← headerOf (← decodeUtf8 line)) :: acc) rest

namespace Request

def read? (bs : List UInt8) : Option (Request × List UInt8) := do
  let (line, rest) ← splitLine bs
  let (method, target) ← match (← decodeUtf8 line).splitOn " " with
    | [m, t, v] => if !m.isEmpty && !t.isEmpty && v.startsWith "HTTP/" then some (m, t) else none
    | _ => none
  let (headers, rest) ← readHeaders (rest.length + 1) [] rest
  let size ← match ({ path := "", headers } : Request).header "Content-Length" with
    | "" => some 0
    | n => decimal? n
  guard (size ≤ rest.length)
  let body ← decodeUtf8 (rest.take size)
  pure (ofTarget method target headers (if size == 0 then none else some body), rest.drop size)

def readSome : Nat → List UInt8 → List Request
  | 0, _ => []
  | fuel + 1, bs =>
    match read? bs with
    | some (r, rest) => r :: readSome fuel rest
    | none => []

def readAll (bs : List UInt8) : List Request := readSome bs.length bs

end Request

def reasonPhrase : Nat → String
  | 200 => "OK"
  | 201 => "Created"
  | 204 => "No Content"
  | 400 => "Bad Request"
  | 404 => "Not Found"
  | 409 => "Conflict"
  | 429 => "Too Many Requests"
  | 500 => "Internal Server Error"
  | 504 => "Gateway Timeout"
  | n => "status code " ++ toString n

namespace Response

def bodiless (status : Nat) : Bool := (100 ≤ status && status < 200) || status == 204 || status == 304

/-- The text of a response as HTTP/1.1 sends it. -/
def render (r : Response) : String :=
  let length := if bodiless r.status then [] else [("Content-Length", toString r.body.utf8ByteSize)]
  "HTTP/1.1 " ++ toString r.status ++ " " ++ reasonPhrase r.status ++ "\r\n" ++
    String.join ((r.headers ++ length).map fun (k, v) => k ++ ": " ++ v ++ "\r\n") ++ "\r\n" ++ r.body

end Response

end RowGate.Http
