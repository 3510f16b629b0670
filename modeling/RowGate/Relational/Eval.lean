import RowGate.Relational.Syntax
import RowGate.Json.Reader
import RowGate.Text.Utf8
import RowGate.Text.Case
/-!
# Evaluating expressions

Expressions evaluated against a row and the arguments, comparisons at a common type, three-valued
logic, and failures with the server's numbers.
-/

namespace RowGate.Relational

open Number

/-- A failure of a statement: the server's error number, its state and message. -/
structure ServerError where
  code : Nat
  state : String := "HY000"
  message : String
deriving Repr, Inhabited

namespace ServerError

def text (e : ServerError) : String :=
  "Error " ++ toString e.code ++ " (" ++ e.state ++ "): " ++ e.message

def tableNotFound (name : String) : ServerError := ⟨1146, "HY000", "table not found: " ++ name⟩

def columnNotFound (name : String) : ServerError :=
  ⟨1105, "HY000", "column \"" ++ name ++ "\" could not be found in any table in scope"⟩

def other (message : String) : ServerError := ⟨1105, "HY000", message⟩

end ServerError

abbrev Run := Except ServerError

/-- A datum with its type. -/
structure Typed where
  type : ColumnType
  datum : Datum
deriving Repr, Inhabited

def Typed.unknown : Typed := ⟨ColumnType.boolean, .null⟩

def Typed.ofBool (b : Bool) : Typed := ⟨ColumnType.boolean, .int (if b then 1 else 0)⟩

def Typed.ofTruth : Option Bool → Typed
  | some b => .ofBool b
  | none => .unknown

/-- Whether the datum is null. -/
def Typed.isNull (v : Typed) : Bool :=
  match v.datum with
  | .null => true
  | _ => false

/-- A statement argument with the type a client sends it as. -/
def argument : Value → Typed
  | .null => ⟨.null, .null⟩
  | .bool b => .ofBool b
  | .int .uint n | .int .uint8 n | .int .uint16 n | .int .uint32 n | .int .uint64 n =>
    ⟨.integer .big true, .int n⟩
  | .int _ n => ⟨.integer .big false, .int n⟩
  | .float x => ⟨.double, .double x⟩
  | .float32 x => ⟨.float, .single x⟩
  | .str s => ⟨ColumnType.longText, .text s⟩
  | .number l => ⟨ColumnType.longText, .text l⟩
  | .bytes b => ⟨.blob .long, .bytes b⟩
  | .time t => ⟨.datetime 6, .instant t⟩
  | .objectId i => ⟨ColumnType.longText, .text i.hex⟩
  | _ => ⟨ColumnType.longText, .text ""⟩

def jsonQuote (s : String) : String :=
  let esc (c : Char) : List Char :=
    if c == '"' then ['\\', '"'] else if c == '\\' then ['\\', '\\']
    else if c == '\n' then ['\\', 'n'] else if c == '\r' then ['\\', 'r']
    else if c == '\t' then ['\\', 't']
    else if c.toNat < 0x20 then '\\' :: 'u' :: '0' :: '0' :: Text.hexDigits 2 c.toNat
    else [c]
  String.ofList ('"' :: s.toList.flatMap esc ++ ['"'])

mutual

def jsonText : Value → String
  | .null => "null"
  | .bool b => if b then "true" else "false"
  | .str s => jsonQuote s
  | .number l => match Binary64.parse l with
    | .ok x => (x.script).getD l
    | .error _ => l
  | .int _ n => toString n
  | .float x => (x.script).getD "null"
  | .list xs => "[" ++ ", ".intercalate (jsonTexts xs) ++ "]"
  | .obj es => "\x7b" ++ ", ".intercalate (jsonMembers es) ++ "\x7d"
  | _ => "null"

def jsonTexts : List Value → List String
  | [] => []
  | v :: rest => jsonText v :: jsonTexts rest

def jsonMembers : List (String × Value) → List String
  | [] => []
  | (k, v) :: rest => (jsonQuote k ++ ": " ++ jsonText v) :: jsonMembers rest

end

/-- The text of a datum of a type, as the store prints it. -/
def Datum.asText (t : ColumnType) : Datum → String
  | .null => ""
  | .int n => toString n
  | .double x => x.general
  | .single x => x.general
  | .fixed d => d.text
  | .text s => s
  | .bytes b => Text.ofUtf8 b
  | .instant i => match t with
    | .date => i.dateText
    | .datetime p | .timestamp p => i.datetimeText p
    | _ => i.datetimeText 0
  | .json v => jsonText v

def fixedOfText (s : String) : Fixed :=
  let (negative, digits, e) := numericPrefix s
  Fixed.ofDigits negative digits e

def doubleOfText (s : String) : Binary64 :=
  let (negative, digits, e) := numericPrefix s
  ⟨(Format.binary64.ofDecimal negative digits e).toUInt64⟩

def instantNumber (i : Instant) : Int :=
  let (y, m, d) := Instant.civil (i.seconds / 86400)
  let secs := (i.seconds % 86400).toNat
  ((y * 100 + m) * 100 + d) * 1000000 + ((secs / 3600) * 10000 + (secs / 60 % 60) * 100 + secs % 60 : Nat)

/-- A datum as an exact decimal. -/
def Typed.toFixed (v : Typed) : Fixed :=
  match v.datum with
  | .int n => Fixed.ofInt n
  | .double x => Fixed.ofBinary64 x
  | .single x => Fixed.ofBinary64 x.toBinary64
  | .fixed d => d
  | .instant i => Fixed.ofInt (instantNumber i)
  | d => fixedOfText (d.asText v.type)

/-- A datum as a double. -/
def Typed.toDouble (v : Typed) : Binary64 :=
  match v.datum with
  | .int n => Binary64.ofInt n
  | .double x => x
  | .single x => x.toBinary64
  | .fixed d => d.toBinary64
  | .instant i => Binary64.ofInt (instantNumber i)
  | d => doubleOfText (d.asText v.type)

/-- A datum as an integer, rounding decimals and doubles half away from zero. -/
def Typed.toInt (v : Typed) : Int :=
  match v.datum with
  | .int n => n
  | .instant i => instantNumber i
  | .double _ | .single _ | .fixed _ => (v.toFixed.rescale 0).unscaled
  | d =>
    let f := fixedOfText (d.asText v.type)
    if f.scale == 0 then f.unscaled else f.unscaled / Nat.pow 10 f.scale

def Typed.toText (v : Typed) : String := v.datum.asText v.type

/-- A datum as a byte string. -/
def Typed.toBytes (v : Typed) : List UInt8 :=
  match v.datum with
  | .bytes b => b
  | d => (d.asText v.type).toUTF8.toList

/-- A datum as an instant, if it is one or reads as one. -/
def Typed.toInstant? (v : Typed) : Option Instant :=
  match v.datum with
  | .instant i => some i
  | .null => none
  | d => parseTemporal (d.asText v.type)

def compareBytes : List UInt8 → List UInt8 → Ordering
  | [], [] => .eq
  | [], _ :: _ => .lt
  | _ :: _, [] => .gt
  | a :: as, b :: bs => if a < b then .lt else if b < a then .gt else compareBytes as bs

def compareTexts (a b : String) : Ordering := compare a b

def compareInstants (a b : Instant) : Ordering :=
  if a.seconds < b.seconds then .lt else if b.seconds < a.seconds then .gt
  else compare a.nanos b.nanos

/-- The order of two data brought to their common type; none when either is null. -/
def compareTyped (a b : Typed) : Run (Option Ordering) :=
  if a.isNull || b.isNull then .ok none
  else if a.type.isTemporal || b.type.isTemporal then
    match a.toInstant?, b.toInstant? with
    | some x, some y => .ok (some (compareInstants x y))
    | none, _ => .error (.other ("Incorrect datetime value: '" ++ a.toText ++ "'"))
    | _, none => .error (.other ("Incorrect datetime value: '" ++ b.toText ++ "'"))
  else if a.type.isBinary || b.type.isBinary then .ok (some (compareBytes a.toBytes b.toBytes))
  else if a.type.isNumeric || b.type.isNumeric then
    if a.type.isDecimal || b.type.isDecimal then .ok (some (a.toFixed.cmp b.toFixed))
    else if a.type.isFloating || b.type.isFloating then
      .ok (some (compareDoubles a.toDouble b.toDouble))
    else if (a.type.isSigned && b.type.isSigned) || (a.type.isUnsigned && b.type.isUnsigned) then
      .ok (some (compare a.toInt b.toInt))
    else .ok (some (compareDoubles a.toDouble b.toDouble))
  else .ok (some (compareTexts a.toText b.toText))

/-- The truth of a datum: non-zero numbers are true; none for null. -/
def Typed.truth (v : Typed) : Option Bool :=
  match v.datum with
  | .null => none
  | .int n => some (n != 0)
  | .fixed d => some (!d.isZero)
  | .double x => some (compareDoubles x (Binary64.ofInt 0) != .eq)
  | .single y => some (compareDoubles y.toBinary64 (Binary64.ofInt 0) != .eq)
  | _ => some (!(fixedOfText v.toText).isZero)

def likeMatch : List Char → List Char → Bool
  | [], t => t.isEmpty
  | '%' :: p, t => (List.range (t.length + 1)).any fun i => likeMatch p (t.drop i)
  | '_' :: p, t => match t with
    | _ :: t' => likeMatch p t'
    | [] => false
  | '\\' :: c :: p, t => match t with
    | x :: t' => c == x && likeMatch p t'
    | [] => false
  | c :: p, t => match t with
    | x :: t' => c == x && likeMatch p t'
    | [] => false

/-- The columns in scope and the row they hold. -/
structure Scope where
  /-- The name of the source table, for qualified references. -/
  source : Option String := none
  columns : List (String × ColumnType) := []
  row : List Datum := []
deriving Inhabited

/-- What a statement runs with: its arguments and the current database. -/
structure Env where
  args : List Value := []
  database : Option String := none
deriving Inhabited

/-- The column of a name in scope, matched without case. -/
def Scope.find? (s : Scope) (qualifier : Option String) (name : String) : Option Typed :=
  let qualifies := match qualifier, s.source with
    | some q, some src => q.lowerCase == src.lowerCase
    | some _, none => false
    | none, _ => true
  if !qualifies then none
  else
    let lower := name.lowerCase
    ((s.columns.zip s.row).find? fun ((n, _), _) => n.lowerCase == lower).map
      fun ((_, t), d) => ⟨t, d⟩

/-- The result of an arithmetic operator on two numbers. -/
def arithmetic (op : BinOp) (a b : Typed) : Run Typed :=
  if a.isNull || b.isNull then .ok ⟨.double, .null⟩
  else
    let floating := a.type.isFloating || b.type.isFloating || a.type.isCharacter || b.type.isCharacter
    let exact := a.type.isDecimal || b.type.isDecimal
    match op with
    | .div =>
      if floating then
        let y := b.toDouble
        if compareDoubles y (Binary64.ofInt 0) == .eq then .ok ⟨.double, .null⟩
        else
          let (na, pa, qa) := ratioOf a.toDouble
          let (nb, pb, qb) := ratioOf y
          .ok ⟨.double, .double (Binary64.ofRatio (na != nb) (pa * qb) (qa * pb))⟩
      else
        let x := a.toFixed
        let y := b.toFixed
        if y.isZero then .ok ⟨.decimal 65 4, .null⟩
        else
          let s := x.scale + 4
          let num := x.unscaled * Nat.pow 10 (s + y.scale)
          let den := y.unscaled * Nat.pow 10 x.scale
          let q := (num.natAbs * 10 + den.natAbs * 5) / (den.natAbs * 10)
          let neg := (num < 0) != (den < 0)
          .ok ⟨.decimal 65 s, .fixed ⟨if neg then -(q : Int) else q, s⟩⟩
    | .intDiv =>
      let y := b.toFixed
      if y.isZero then .ok ⟨.integer .big false, .null⟩
      else
        let x := a.toFixed
        let (p, q) := Fixed.align x y
        .ok ⟨.integer .big false, .int (p.tdiv q)⟩
    | _ =>
      if floating then
        let x := a.toDouble
        let y := b.toDouble
        let (na, pa, qa) := ratioOf x
        let (nb, pb, qb) := ratioOf y
        let sx : Int := if na then -(pa : Int) else pa
        let sy : Int := if nb then -(pb : Int) else pb
        let (num, den) : Int × Int := match op with
          | .add => (sx * qb + sy * qa, (qa * qb : Nat))
          | .sub => (sx * qb - sy * qa, (qa * qb : Nat))
          | .mul => (sx * sy, (qa * qb : Nat))
          | _ => (sx * qb - (sx * qb).tdiv (sy * qa) * (sy * qa), (qa * qb : Nat))
        .ok ⟨.double, .double (Binary64.ofRatio (num < 0) num.natAbs den.natAbs)⟩
      else if exact then
        let x := a.toFixed
        let y := b.toFixed
        let s := max x.scale y.scale
        let x' := x.rescale s
        let y' := y.rescale s
        match op with
        | .add => .ok ⟨.decimal 65 s, .fixed ⟨x'.unscaled + y'.unscaled, s⟩⟩
        | .sub => .ok ⟨.decimal 65 s, .fixed ⟨x'.unscaled - y'.unscaled, s⟩⟩
        | .mul => .ok ⟨.decimal 65 (x.scale + y.scale), .fixed ⟨x.unscaled * y.unscaled, x.scale + y.scale⟩⟩
        | _ =>
          if y'.isZero then .ok ⟨.decimal 65 s, .null⟩
          else .ok ⟨.decimal 65 s, .fixed ⟨x'.unscaled.tmod y'.unscaled, s⟩⟩
      else
        let x := a.toInt
        let y := b.toInt
        let unsigned := a.type.isUnsigned || b.type.isUnsigned
        let t : ColumnType := .integer .big unsigned
        match op with
        | .add => .ok ⟨t, .int (x + y)⟩
        | .sub => .ok ⟨t, .int (x - y)⟩
        | .mul => .ok ⟨t, .int (x * y)⟩
        | _ => if y == 0 then .ok ⟨t, .null⟩ else .ok ⟨t, .int (x.tmod y)⟩

def castTo (t : ColumnType) (v : Typed) : Run Typed :=
  if v.isNull then .ok ⟨t, .null⟩
  else match t with
    | .integer _ true =>
      let n := v.toInt
      .ok ⟨t, .int (if n < 0 then n + Nat.pow 2 64 else n)⟩
    | .integer .. => .ok ⟨t, .int v.toInt⟩
    | .decimal _ s => .ok ⟨t, .fixed (v.toFixed.rescale s)⟩
    | .double => .ok ⟨t, .double v.toDouble⟩
    | .float =>
      let (n, p, q) := ratioOf v.toDouble
      .ok ⟨t, .single (Binary32.ofRatio n p q)⟩
    | .date => match v.toInstant? with
      | some i => .ok ⟨t, .instant ⟨i.seconds - i.seconds % 86400, 0⟩⟩
      | none => .ok ⟨t, .null⟩
    | .datetime _ => match v.toInstant? with
      | some i => .ok ⟨t, .instant i⟩
      | none => .ok ⟨t, .null⟩
    | .blob _ => .ok ⟨t, .bytes v.toBytes⟩
    | .json => match v.datum with
      | .json d => .ok ⟨t, .json d⟩
      | _ => match Json.readValue v.toText with
        | .ok (d, _) => .ok ⟨t, .json d⟩
        | .error _ => .error (.other ("Invalid JSON text: " ++ v.toText))
    | .year => .ok ⟨t, .int v.toInt⟩
    | _ => .ok ⟨ColumnType.longText, .text v.toText⟩

def callFunction (env : Env) (name : String) (args : List Typed) : Run Typed :=
  let text (f : String → String) : Run Typed :=
    match args with
    | [a] => if a.isNull then .ok ⟨ColumnType.longText, .null⟩ else .ok ⟨ColumnType.longText, .text (f a.toText)⟩
    | _ => .error (.other ("function '" ++ name.lowerCase ++ "' expected 1 argument"))
  match name with
  | "LOWER" | "LCASE" => text String.lowerCase
  | "UPPER" | "UCASE" => text String.upperCase
  | "DATABASE" | "SCHEMA" =>
    .ok ⟨ColumnType.longText, match env.database with
      | some d => .text d
      | none => .null⟩
  | "COALESCE" | "IFNULL" =>
    match args.find? (!·.isNull) with
    | some v => .ok v
    | none => .ok ⟨.null, .null⟩
  | "CONCAT" =>
    if args.any (·.isNull) then .ok ⟨ColumnType.longText, .null⟩
    else .ok ⟨ColumnType.longText, .text (String.join (args.map (·.toText)))⟩
  | "LENGTH" | "OCTET_LENGTH" =>
    match args with
    | [a] => if a.isNull then .ok ⟨.integer .big false, .null⟩
      else .ok ⟨.integer .big false, .int a.toBytes.length⟩
    | _ => .error (.other "function 'length' expected 1 argument")
  | "CHAR_LENGTH" | "CHARACTER_LENGTH" =>
    match args with
    | [a] => if a.isNull then .ok ⟨.integer .big false, .null⟩
      else .ok ⟨.integer .big false, .int a.toText.length⟩
    | _ => .error (.other "function 'char_length' expected 1 argument")
  | "VERSION" => .ok ⟨ColumnType.longText, .text "8.0.31"⟩
  | _ => .error (.other ("function: '" ++ name.lowerCase ++ "' not found"))

/-- The truth of a comparison operator applied to an order. -/
def BinOp.holds (op : BinOp) (o : Ordering) : Bool :=
  match op with
  | .eq | .nullSafeEq => o == .eq
  | .ne => o != .eq
  | .lt => o == .lt
  | .le => o != .gt
  | .gt => o == .gt
  | .ge => o != .lt
  | _ => false

mutual

/-- The value of an expression for the row in scope. -/
def eval (env : Env) (scope : Scope) : Expr → Run Typed
  | .lit d t => .ok ⟨t, d⟩
  | .param after =>
    match env.args.reverse[after]? with
    | some v => .ok (argument v)
    | none => .error (.other "missing argument")
  | .column q n =>
    match scope.find? q n with
    | some v => .ok v
    | none => .error (.columnNotFound (match q with
      | some x => x ++ "." ++ n
      | none => n))
  | .neg e => do
    let v ← eval env scope e
    if v.isNull then .ok v
    else match v.datum with
      | .int n => .ok ⟨.integer .big false, .int (-n)⟩
      | .fixed d => .ok ⟨v.type, .fixed ⟨-d.unscaled, d.scale⟩⟩
      | _ =>
        let (n, p, q) := ratioOf v.toDouble
        .ok ⟨.double, .double (Binary64.ofRatio (!n) p q)⟩
  | .not e => do
    let v ← eval env scope e
    .ok (.ofTruth (v.truth.map (!·)))
  | .binary op a b => do
    let x ← eval env scope a
    match op with
    | .and =>
      if x.truth == some false then .ok (.ofBool false)
      else
        let y ← eval env scope b
        match x.truth, y.truth with
        | _, some false => .ok (.ofBool false)
        | some true, some true => .ok (.ofBool true)
        | _, _ => .ok .unknown
    | .or =>
      if x.truth == some true then .ok (.ofBool true)
      else
        let y ← eval env scope b
        match x.truth, y.truth with
        | _, some true => .ok (.ofBool true)
        | some false, some false => .ok (.ofBool false)
        | _, _ => .ok .unknown
    | .xor =>
      let y ← eval env scope b
      match x.truth, y.truth with
      | some p, some q => .ok (.ofBool (p != q))
      | _, _ => .ok .unknown
    | .add | .sub | .mul | .div | .intDiv | .mod =>
      let y ← eval env scope b
      arithmetic op x y
    | .nullSafeEq =>
      let y ← eval env scope b
      if x.isNull && y.isNull then .ok (.ofBool true)
      else if x.isNull || y.isNull then .ok (.ofBool false)
      else
        let o ← compareTyped x y
        .ok (.ofTruth (o.map (op.holds ·)))
    | _ =>
      let y ← eval env scope b
      let o ← compareTyped x y
      .ok (.ofTruth (o.map (op.holds ·)))
  | .isNull e negated => do
    let v ← eval env scope e
    .ok (.ofBool (v.isNull != negated))
  | .isTruth e t negated => do
    let v ← eval env scope e
    .ok (.ofBool ((v.truth == some t) != negated))
  | .inList e items negated => do
    let v ← eval env scope e
    let vs ← evalList env scope items
    if v.isNull then .ok .unknown
    else
      let os ← vs.mapM (compareTyped v)
      if os.any (· == some .eq) then .ok (.ofBool !negated)
      else if os.any (·.isNone) then .ok .unknown
      else .ok (.ofBool negated)
  | .between e lo hi negated => do
    let v ← eval env scope e
    let l ← eval env scope lo
    let h ← eval env scope hi
    let a ← compareTyped v l
    let b ← compareTyped v h
    match a, b with
    | some a, some b => .ok (.ofBool ((a != .lt && b != .gt) != negated))
    | _, _ => .ok .unknown
  | .like e p negated => do
    let v ← eval env scope e
    let q ← eval env scope p
    if v.isNull || q.isNull then .ok .unknown
    else .ok (.ofBool (likeMatch q.toText.toList v.toText.toList != negated))
  | .call n args => do
    let vs ← evalList env scope args
    callFunction env n vs
  | .cast e t => do
    let v ← eval env scope e
    castTo t v
  | .countAll | .count _ => .error (.other "aggregate outside a projection")

def evalList (env : Env) (scope : Scope) : List Expr → Run (List Typed)
  | [] => .ok []
  | e :: rest => do
    let v ← eval env scope e
    let vs ← evalList env scope rest
    .ok (v :: vs)

end

/-- The type an expression has in a scope of typed columns, without a row. -/
def typeOf (env : Env) (columns : List (String × ColumnType)) (e : Expr) : ColumnType :=
  match e with
  | .countAll | .count _ => .integer .big false
  | .column _ n =>
    ((columns.find? fun (m, _) => m.lowerCase == n.lowerCase).map (·.2)).getD ColumnType.longText
  | .lit _ t => t
  | .cast _ t => match t with
    | .integer .. | .decimal .. | .double | .float | .date | .datetime _ | .json | .year | .blob _ => t
    | _ => ColumnType.longText
  | .param after => match env.args.reverse[after]? with
    | some v => (argument v).type
    | none => .null
  | .call n _ => if n == "LENGTH" || n == "CHAR_LENGTH" then .integer .big false else ColumnType.longText
  | .binary op _ _ => match op with
    | .add | .sub | .mul | .mod => .integer .big false
    | .div => .decimal 65 4
    | _ => ColumnType.boolean
  | .neg _ => .integer .big false
  | _ => ColumnType.boolean

end RowGate.Relational
