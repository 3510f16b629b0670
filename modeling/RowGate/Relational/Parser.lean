import RowGate.Relational.Syntax
import RowGate.Relational.Lexer
/-!
# Reading statements

A recursive descent reader with fuel over the tokens of one statement; a malformed one fails
with the position and token.
-/

namespace RowGate.Relational

open Number

abbrev Reader := StateT (List Lexeme) (Except String)

namespace Reader

def peek : Reader (Option Token) := do pure ((← get).head?.map (·.token))

def peek2 : Reader (Option Token) := do pure (((← get).drop 1).head?.map (·.token))

/-- Fails at the next token. -/
def fail (α : Type) : Reader α := do
  match (← get).head? with
  | some l => throw ("syntax error at position " ++ toString (l.pos + l.len + 1) ++ " near '" ++
      l.token.text ++ "'")
  | none => throw "syntax error at end of statement"

def skip : Reader Unit := modify (·.drop 1)

def isKeyword (k : String) : Option Token → Bool
  | some (.word w) => w.upperCase == k
  | _ => false

def keyword (k : String) : Reader Bool := do
  if isKeyword k (← peek) then skip; pure true else pure false

def expect (k : String) : Reader Unit := do
  unless ← keyword k do fail Unit

def symbol (s : String) : Reader Bool := do
  if (← peek) == some (.sym s) then skip; pure true else pure false

def expectSymbol (s : String) : Reader Unit := do
  unless ← symbol s do fail Unit

/-- Takes a name: a word or a name between backquotes. -/
def name : Reader String := do
  match ← peek with
  | some (.word w) => skip; pure w
  | some (.quoted w) => skip; pure w
  | _ => fail String

def tableName : Reader TableName := do
  let first ← name
  if ← symbol "." then
    let second ← name
    pure { schema := some first, name := second }
  else pure { name := first }

/-- Takes a natural number literal. -/
def natural : Reader Nat := do
  match ← peek with
  | some (.num t) =>
    skip
    match parseNatBelow (Nat.pow 2 64) t with
    | .ok n => pure n
    | .error _ => fail Nat
  | _ => fail Nat

def nameList : Reader (List String) := do
  expectSymbol "("
  let first ← name
  let rest ← (List.range 1000).foldlM (fun (acc : List String × Bool) _ => do
    if !acc.2 then pure acc
    else if ← symbol "," then
      let n ← name
      pure (acc.1 ++ [n], true)
    else pure (acc.1, false)) ([first], true)
  expectSymbol ")"
  pure rest.1

end Reader

open Reader

def integerLiteral (n : Int) : Datum × ColumnType :=
  let fits (w : IntWidth) (u : Bool) := w.least u ≤ n && n ≤ w.greatest u
  let widths : List (IntWidth × Bool) :=
    [(.tiny, false), (.tiny, true), (.small, false), (.small, true), (.regular, false),
      (.regular, true), (.big, false), (.big, true)]
  match widths.find? fun (w, u) => fits w u with
  | some (w, u) => (.int n, .integer w u)
  | none => (.fixed ⟨n, 0⟩, .decimal 65 0)

def numberLiteral (t : String) : Datum × ColumnType :=
  let cs := t.toList
  if cs.any fun c => c == 'e' || c == 'E' then
    match Binary64.parse t with
    | .ok x => (.double x, .double)
    | .error _ => (.double (Binary64.ofInt 0), .double)
  else if cs.contains '.' then
    let whole := cs.takeWhile (· != '.')
    let frac := (cs.dropWhile (· != '.')).drop 1
    let digits := digitsValue (whole ++ frac)
    let wholeDigits := (whole.dropWhile (· == '0')).length
    (.fixed ⟨digits, frac.length⟩, .decimal (max 1 (wholeDigits + frac.length)) frac.length)
  else integerLiteral (digitsValue cs)

def clauseWords : List String :=
  ["FROM", "WHERE", "ORDER", "LIMIT", "OFFSET", "GROUP", "HAVING", "UNION", "AS", "ON", "AND",
    "OR", "ASC", "DESC", "INTO", "VALUES", "SET", "FOR", "LOCK"]

mutual

def exprAt : Nat → Nat → Reader Expr
  | 0, _ => fail Expr
  | fuel + 1, level =>
    match level with
    | 0 => do let a ← exprAt fuel 1; orRest fuel a
    | 1 => do let a ← exprAt fuel 2; xorRest fuel a
    | 2 => do let a ← exprAt fuel 3; andRest fuel a
    | 3 => do
      if ← keyword "NOT" then
        let e ← exprAt fuel 3
        pure (.not e)
      else if ← symbol "!" then
        let e ← exprAt fuel 3
        pure (.not e)
      else exprAt fuel 4
    | 4 => do let a ← exprAt fuel 5; comparisonRest fuel a
    | 5 => do let a ← exprAt fuel 6; sumRest fuel a
    | 6 => do let a ← exprAt fuel 7; productRest fuel a
    | 7 => do
      if ← symbol "-" then
        let e ← exprAt fuel 7
        pure (match e with
          | .lit (.int n) _ => let (d, t) := integerLiteral (-n); .lit d t
          | .lit (.fixed d) t => .lit (.fixed ⟨-d.unscaled, d.scale⟩) t
          | e => .neg e)
      else if ← symbol "+" then exprAt fuel 7
      else primary fuel
    | _ => primary fuel

def orRest : Nat → Expr → Reader Expr
  | 0, a => pure a
  | fuel + 1, a => do
    if (← keyword "OR") || (← symbol "||") then
      let b ← exprAt fuel 1
      orRest fuel (.binary .or a b)
    else pure a

def xorRest : Nat → Expr → Reader Expr
  | 0, a => pure a
  | fuel + 1, a => do
    if ← keyword "XOR" then
      let b ← exprAt fuel 2
      xorRest fuel (.binary .xor a b)
    else pure a

def andRest : Nat → Expr → Reader Expr
  | 0, a => pure a
  | fuel + 1, a => do
    if (← keyword "AND") || (← symbol "&&") then
      let b ← exprAt fuel 3
      andRest fuel (.binary .and a b)
    else pure a

def comparisonRest : Nat → Expr → Reader Expr
  | 0, a => pure a
  | fuel + 1, a => do
    let compare (op : BinOp) : Reader Expr := do
      let b ← exprAt fuel 5
      comparisonRest fuel (.binary op a b)
    match ← peek with
    | some (.sym "=") => skip; compare .eq
    | some (.sym "<>") | some (.sym "!=") => skip; compare .ne
    | some (.sym "<") => skip; compare .lt
    | some (.sym "<=") => skip; compare .le
    | some (.sym ">") => skip; compare .gt
    | some (.sym ">=") => skip; compare .ge
    | some (.sym "<=>") => skip; compare .nullSafeEq
    | t =>
      if isKeyword "IS" t then
        skip
        let negated ← keyword "NOT"
        if ← keyword "NULL" then comparisonRest fuel (.isNull a negated)
        else if ← keyword "TRUE" then comparisonRest fuel (.isTruth a true negated)
        else if ← keyword "FALSE" then comparisonRest fuel (.isTruth a false negated)
        else fail Expr
      else
        let negated ← if isKeyword "NOT" t then
            (do
              let t2 ← peek2
              if isKeyword "IN" t2 || isKeyword "BETWEEN" t2 || isKeyword "LIKE" t2 then
                skip; pure true
              else pure false)
          else pure false
        if ← keyword "IN" then
          expectSymbol "("
          let items ← exprList fuel
          expectSymbol ")"
          comparisonRest fuel (.inList a items negated)
        else if ← keyword "BETWEEN" then
          let lo ← exprAt fuel 5
          expect "AND"
          let hi ← exprAt fuel 5
          comparisonRest fuel (.between a lo hi negated)
        else if ← keyword "LIKE" then
          let p ← exprAt fuel 5
          comparisonRest fuel (.like a p negated)
        else if negated then fail Expr
        else pure a

def sumRest : Nat → Expr → Reader Expr
  | 0, a => pure a
  | fuel + 1, a => do
    if ← symbol "+" then
      let b ← exprAt fuel 6
      sumRest fuel (.binary .add a b)
    else if ← symbol "-" then
      let b ← exprAt fuel 6
      sumRest fuel (.binary .sub a b)
    else pure a

def productRest : Nat → Expr → Reader Expr
  | 0, a => pure a
  | fuel + 1, a => do
    if ← symbol "*" then
      let b ← exprAt fuel 7
      productRest fuel (.binary .mul a b)
    else if ← symbol "/" then
      let b ← exprAt fuel 7
      productRest fuel (.binary .div a b)
    else if (← symbol "%") || (← keyword "MOD") then
      let b ← exprAt fuel 7
      productRest fuel (.binary .mod a b)
    else if ← keyword "DIV" then
      let b ← exprAt fuel 7
      productRest fuel (.binary .intDiv a b)
    else pure a

def exprList : Nat → Reader (List Expr)
  | 0 => pure []
  | fuel + 1 => do
    let e ← exprAt fuel 0
    if ← symbol "," then
      let rest ← exprList fuel
      pure (e :: rest)
    else pure [e]

/-- A primary expression. -/
def primary : Nat → Reader Expr
  | 0 => fail Expr
  | fuel + 1 => do
    match ← peek with
    | some (.num t) => skip; let (d, ty) := numberLiteral t; pure (.lit d ty)
    | some (.str t) => skip; pure (.lit (.text t) ColumnType.longText)
    | some (.hex bs) => skip; pure (.lit (.bytes bs) (.blob .long))
    | some .param =>
      skip
      let after := ((← get).filter fun l => l.token == .param).length
      pure (.param after)
    | some (.sym "(") =>
      skip
      let e ← exprAt fuel 0
      expectSymbol ")"
      pure e
    | some (.quoted n) => skip; columnRest n
    | some (.word w) =>
      let u := w.upperCase
      if u == "NULL" then skip; pure (.lit .null .null)
      else if u == "TRUE" then skip; pure (.lit (.int 1) ColumnType.boolean)
      else if u == "FALSE" then skip; pure (.lit (.int 0) ColumnType.boolean)
      else if u == "CAST" && (← peek2) == some (.sym "(") then
        skip; skip
        let e ← exprAt fuel 0
        expect "AS"
        let t ← castType
        expectSymbol ")"
        pure (.cast e t)
      else if (← peek2) == some (.sym "(") then
        skip; skip
        if u == "COUNT" then
          if ← symbol "*" then
            expectSymbol ")"
            pure .countAll
          else
            let e ← exprAt fuel 0
            expectSymbol ")"
            pure (.count e)
        else if ← symbol ")" then pure (.call u [])
        else
          let args ← exprList fuel
          expectSymbol ")"
          pure (.call u args)
      else skip; columnRest w
    | _ => fail Expr

def columnRest (first : String) : Reader Expr := do
  if (← peek) == some (.sym ".") then
    skip
    let second ← name
    pure (.column (some first) second)
  else pure (.column none first)

def castType : Reader ColumnType := do
  let w ← name
  match w.upperCase with
  | "SIGNED" => let _ ← keyword "INTEGER"; let _ ← keyword "INT"; pure (.integer .big false)
  | "UNSIGNED" => let _ ← keyword "INTEGER"; let _ ← keyword "INT"; pure (.integer .big true)
  | "CHAR" | "NCHAR" =>
    if ← symbol "(" then let _ ← natural; expectSymbol ")"
    pure ColumnType.longText
  | "BINARY" =>
    if ← symbol "(" then let _ ← natural; expectSymbol ")"
    pure (.blob .long)
  | "DECIMAL" =>
    if ← symbol "(" then
      let p ← natural
      let s ← if ← symbol "," then natural else pure 0
      expectSymbol ")"
      pure (.decimal p s)
    else pure (.decimal 10 0)
  | "DOUBLE" | "REAL" => pure .double
  | "FLOAT" => pure .float
  | "DATE" => pure .date
  | "DATETIME" => pure (.datetime 0)
  | "JSON" => pure .json
  | "YEAR" => pure .year
  | _ => fail ColumnType

end

def expr (fuel : Nat) : Reader Expr := exprAt fuel 0

def itemText (source : String) (start stop : List Lexeme) (e : Expr) : String :=
  match e with
  | .lit (.text t) _ => t
  | _ =>
    match start.head? with
    | none => ""
    | some first =>
      let used := start.take (start.length - stop.length)
      match used.getLast? with
      | some last => String.ofList ((source.toList.drop first.pos).take (last.pos + last.len - first.pos))
      | none => ""

def selectItem (source : String) (fuel : Nat) : Reader SelectItem := do
  if ← symbol "*" then pure .star
  else
    let start ← get
    let e ← expr fuel
    let stop ← get
    let text := itemText source start stop e
    if ← keyword "AS" then
      let a ← match ← peek with
        | some (.str t) => skip; pure t
        | _ => name
      pure (.expr e (some a) text)
    else
      match ← peek with
      | some (.word w) =>
        if clauseWords.contains w.upperCase then pure (.expr e none text)
        else skip; pure (.expr e (some w) text)
      | some (.quoted w) => skip; pure (.expr e (some w) text)
      | _ => pure (.expr e none text)

def selectItems (source : String) : Nat → Reader (List SelectItem)
  | 0 => pure []
  | fuel + 1 => do
    let i ← selectItem source fuel
    if ← symbol "," then
      let rest ← selectItems source fuel
      pure (i :: rest)
    else pure [i]

def orderTerms : Nat → Reader (List OrderTerm)
  | 0 => pure []
  | fuel + 1 => do
    let e ← expr fuel
    let desc ← if ← keyword "DESC" then pure true else do let _ ← keyword "ASC"; pure false
    if ← symbol "," then
      let rest ← orderTerms fuel
      pure (⟨e, desc⟩ :: rest)
    else pure [⟨e, desc⟩]

def selectBody (source : String) (fuel : Nat) : Reader Select := do
  let _ ← keyword "DISTINCT"
  let items ← selectItems source fuel
  let src ← if ← keyword "FROM" then
      (do
        let t ← tableName
        if ← keyword "AS" then let _ ← name
        else match ← peek with
          | some (.word w) => if clauseWords.contains w.upperCase then pure () else skip
          | some (.quoted _) => skip
          | _ => pure ()
        pure (some t))
    else pure none
  let filter ← if ← keyword "WHERE" then some <$> expr fuel else pure none
  let order ← if ← keyword "ORDER" then (do expect "BY"; orderTerms fuel) else pure []
  let (limit, offset) ← if ← keyword "LIMIT" then
      (do
        let a ← expr fuel
        if ← symbol "," then
          let b ← expr fuel
          pure (some b, some a)
        else if ← keyword "OFFSET" then
          let b ← expr fuel
          pure (some a, some b)
        else pure (some a, none))
    else pure (none, none)
  pure { items, source := src, filter, order, limit, offset }

/-- A column type of a table definition. -/
def columnType : Reader ColumnType := do
  let w ← name
  let length : Reader (Option Nat) := do
    if ← symbol "(" then
      let n ← natural
      expectSymbol ")"
      pure (some n)
    else pure none
  let integer (width : IntWidth) : Reader ColumnType := do
    let _ ← length
    let u ← keyword "UNSIGNED"
    let _ ← keyword "SIGNED"
    let _ ← keyword "ZEROFILL"
    pure (.integer width u)
  match w.upperCase with
  | "TINYINT" => integer .tiny
  | "SMALLINT" => integer .small
  | "MEDIUMINT" => integer .medium
  | "INT" | "INTEGER" => integer .regular
  | "BIGINT" => integer .big
  | "BOOL" | "BOOLEAN" => pure ColumnType.boolean
  | "DOUBLE" | "REAL" =>
    let _ ← keyword "PRECISION"
    if ← symbol "(" then
      let _ ← natural
      if ← symbol "," then let _ ← natural
      expectSymbol ")"
    let _ ← keyword "UNSIGNED"
    pure .double
  | "FLOAT" =>
    let p ← length
    let _ ← keyword "UNSIGNED"
    pure (if (p.getD 0) > 24 then .double else .float)
  | "DECIMAL" | "DEC" | "NUMERIC" | "FIXED" =>
    if ← symbol "(" then
      let p ← natural
      let s ← if ← symbol "," then natural else pure 0
      expectSymbol ")"
      let _ ← keyword "UNSIGNED"
      pure (.decimal p s)
    else
      let _ ← keyword "UNSIGNED"
      pure (.decimal 10 0)
  | "VARCHAR" => pure (.varchar ((← length).getD 255))
  | "CHAR" | "CHARACTER" =>
    if ← keyword "VARYING" then pure (.varchar ((← length).getD 255))
    else pure (.char ((← length).getD 1))
  | "TEXT" => let _ ← length; pure (.text .regular)
  | "TINYTEXT" => pure (.text .tiny)
  | "MEDIUMTEXT" => pure (.text .medium)
  | "LONGTEXT" => pure (.text .long)
  | "BLOB" => let _ ← length; pure (.blob .regular)
  | "TINYBLOB" => pure (.blob .tiny)
  | "MEDIUMBLOB" => pure (.blob .medium)
  | "LONGBLOB" => pure (.blob .long)
  | "VARBINARY" => pure (.varbinary ((← length).getD 255))
  | "BINARY" => pure (.binary ((← length).getD 1))
  | "YEAR" => let _ ← length; pure .year
  | "DATE" => pure .date
  | "DATETIME" => pure (.datetime ((← length).getD 0))
  | "TIMESTAMP" => pure (.timestamp ((← length).getD 0))
  | "JSON" => pure .json
  | "BIT" => pure (.bit ((← length).getD 1))
  | "ENUM" =>
    expectSymbol "("
    let members ← (List.range 1000).foldlM (fun (acc : List String × Bool) _ => do
      if !acc.2 then pure acc
      else
        match ← peek with
        | some (.str t) =>
          skip
          let more ← symbol ","
          pure (acc.1 ++ [t], more)
        | _ => fail (List String × Bool)) ([], true)
    expectSymbol ")"
    pure (.enumeration members.1)
  | _ => fail ColumnType

def columnOptions (fuel : Nat) : Nat → ColumnDef → Reader ColumnDef
  | 0, c => pure c
  | n + 1, c => do
    if ← keyword "NOT" then expect "NULL"; columnOptions fuel n { c with nullable := false }
    else if ← keyword "NULL" then columnOptions fuel n c
    else if ← keyword "PRIMARY" then
      expect "KEY"; columnOptions fuel n { c with primary := true, nullable := false }
    else if ← keyword "UNIQUE" then
      let _ ← keyword "KEY"
      columnOptions fuel n { c with unique := true }
    else if ← keyword "KEY" then columnOptions fuel n { c with primary := true, nullable := false }
    else if ← keyword "AUTO_INCREMENT" then columnOptions fuel n { c with autoIncrement := true }
    else if ← keyword "DEFAULT" then
      let e ← exprAt fuel 7
      columnOptions fuel n { c with default := some e }
    else if ← keyword "COMMENT" then
      match ← peek with
      | some (.str _) => skip; columnOptions fuel n c
      | _ => fail ColumnDef
    else if (← keyword "CHARACTER") then
      expect "SET"; let _ ← name; columnOptions fuel n c
    else if (← keyword "CHARSET") || (← keyword "COLLATE") then
      let _ ← name; columnOptions fuel n c
    else pure c

/-- One element of a table definition: a column, a key or a constraint. -/
inductive TableElement where
  | column (c : ColumnDef)
  | primaryKey (columns : List String)
  | unique (name : String) (columns : List String)
  | other

def tableElement (fuel : Nat) : Reader TableElement := do
  let _ ← if ← keyword "CONSTRAINT" then
      (do
        match ← peek with
        | some (.word w) => if w.upperCase == "PRIMARY" || w.upperCase == "UNIQUE" then pure () else skip
        | some (.quoted _) => skip
        | _ => pure ())
    else pure ()
  if ← keyword "PRIMARY" then
    expect "KEY"
    pure (.primaryKey (← nameList))
  else if ← keyword "UNIQUE" then
    let _ ← (do let a ← keyword "KEY"; if a then pure true else keyword "INDEX")
    let n ← if (← peek) == some (.sym "(") then pure "" else name
    let cols ← nameList
    pure (.unique (if n.isEmpty then cols.headD "" else n) cols)
  else if (← keyword "KEY") || (← keyword "INDEX") then
    if (← peek) != some (.sym "(") then let _ ← name
    let _ ← nameList
    pure .other
  else
    let n ← name
    let t ← columnType
    let c ← columnOptions fuel 20 { name := n, type := t }
    pure (.column c)

def tableElements (fuel : Nat) : Nat → Reader (List TableElement)
  | 0 => pure []
  | n + 1 => do
    let e ← tableElement fuel
    if ← symbol "," then
      let rest ← tableElements fuel n
      pure (e :: rest)
    else pure [e]

def skipRest : Reader Unit := set ([] : List Lexeme)

def insertRows (fuel : Nat) : Nat → Reader (List (List Expr))
  | 0 => pure []
  | n + 1 => do
    expectSymbol "("
    let row ← if (← peek) == some (.sym ")") then pure [] else exprList fuel
    expectSymbol ")"
    if ← symbol "," then
      let rest ← insertRows fuel n
      pure (row :: rest)
    else pure [row]

/-- Assignments `name = expression` separated by commas. -/
def assignments (fuel : Nat) : Nat → Reader (List (String × Expr))
  | 0 => pure []
  | n + 1 => do
    let _ ← symbol "@@"
    let _ ← (do let a ← keyword "SESSION"; if a then pure true else keyword "GLOBAL")
    let first ← name
    let target ← if ← symbol "." then name else pure first
    unless (← symbol "=") || (← symbol ":=") do fail Unit
    let e ← expr fuel
    if ← symbol "," then
      let rest ← assignments fuel n
      pure ((target, e) :: rest)
    else pure [(target, e)]

def tableNames : Nat → Reader (List TableName)
  | 0 => pure []
  | n + 1 => do
    let t ← tableName
    if ← symbol "," then
      let rest ← tableNames n
      pure (t :: rest)
    else pure [t]

/-- A whole statement. -/
def statement (source : String) (fuel : Nat) : Reader Statement := do
  let w ← match ← peek with
    | some (.word w) => skip; pure w.upperCase
    | _ => fail String
  match w with
  | "SELECT" => pure (.select (← selectBody source fuel))
  | "CREATE" =>
    let orReplace ← if ← keyword "OR" then (do expect "REPLACE"; pure true) else pure false
    if ← keyword "TABLE" then
      let ifNot ← if ← keyword "IF" then (do expect "NOT"; expect "EXISTS"; pure true) else pure false
      let n ← tableName
      expectSymbol "("
      let elems ← tableElements fuel 1000
      expectSymbol ")"
      skipRest
      let cols := elems.filterMap fun e => match e with
        | .column c => some c
        | _ => none
      let pk := elems.foldl (fun acc e => match e with
        | .primaryKey cs => cs
        | _ => acc) ((cols.filter (·.primary)).map (·.name))
      let uniques := elems.filterMap fun e => match e with
        | .unique n cs => some (n, cs)
        | _ => none
      let uniques := uniques ++ (cols.filter (·.unique)).map fun c => (c.name, [c.name])
      pure (.createTable n cols pk uniques ifNot)
    else if ← keyword "VIEW" then
      let n ← tableName
      expect "AS"
      expect "SELECT"
      pure (.createView n (← selectBody source fuel) orReplace)
    else
      let unique ← keyword "UNIQUE"
      expect "INDEX"
      let n ← name
      expect "ON"
      let t ← tableName
      let cols ← nameList
      pure (.createIndex n t cols unique)
  | "INSERT" =>
    let _ ← keyword "IGNORE"
    expect "INTO"
    let t ← tableName
    let cols ← if (← peek) == some (.sym "(") then some <$> nameList else pure none
    unless (← keyword "VALUES") || (← keyword "VALUE") do fail Unit
    pure (.insert t cols (← insertRows fuel 100000))
  | "UPDATE" =>
    let t ← tableName
    expect "SET"
    let sets ← assignments fuel 1000
    let filter ← if ← keyword "WHERE" then some <$> expr fuel else pure none
    pure (.update t sets filter)
  | "DELETE" =>
    expect "FROM"
    let t ← tableName
    let filter ← if ← keyword "WHERE" then some <$> expr fuel else pure none
    pure (.delete t filter)
  | "DROP" =>
    if ← keyword "TABLE" then
      let ifExists ← if ← keyword "IF" then (do expect "EXISTS"; pure true) else pure false
      pure (.dropTable (← tableNames 1000) ifExists)
    else
      expect "VIEW"
      let ifExists ← if ← keyword "IF" then (do expect "EXISTS"; pure true) else pure false
      pure (.dropView (← tableNames 1000) ifExists)
  | "ALTER" =>
    expect "TABLE"
    let t ← tableName
    if ← keyword "DROP" then
      let _ ← keyword "COLUMN"
      pure (.dropColumn t (← name))
    else
      expect "ADD"
      let _ ← keyword "COLUMN"
      let n ← name
      let ty ← columnType
      let c ← columnOptions fuel 20 { name := n, type := ty }
      pure (.addColumn t c)
  | "SET" => pure (.setVariables (← assignments fuel 1000))
  | "BEGIN" | "COMMIT" | "ROLLBACK" => pure (.transaction w)
  | "START" => expect "TRANSACTION"; pure (.transaction "BEGIN")
  | _ => do
    set ((← get) : List Lexeme)
    throw ("syntax error at position " ++ toString (w.length + 1) ++ " near '" ++ w ++ "'")

/-- Reads one statement; a trailing semicolon is allowed. -/
def parseStatement (s : String) : Except String Statement := do
  let tokens ← lex s
  let fuel := 10 * tokens.length + 20
  let (st, rest) ← (statement s fuel).run tokens
  let rest := match rest with
    | [⟨.sym ";", _, _⟩] => []
    | r => r
  match rest with
  | [] => pure st
  | l :: _ => throw ("syntax error at position " ++ toString (l.pos + l.len + 1) ++ " near '" ++
      l.token.text ++ "'")

end RowGate.Relational
