import RowGate.Query.Plan
import RowGate.Query.Kind
import RowGate.Text.Quoted
/-!
# SQL statements

Each dialect's quoting, arguments, false condition, case-insensitive match and page clause, and
filters written as conditions with their arguments.
-/

namespace RowGate.Query

open RowGate.Filter

/-- A SQL dialect. -/
inductive SqlDialect where
  | postgres | mysql | mssql
deriving DecidableEq, Repr, Inhabited

namespace SqlDialect

def kind : SqlDialect → Kind
  | postgres => .postgres | mysql => .mysql | mssql => .mssql

/-- Quotes a name, doubling the closing quote inside it. -/
def quote (d : SqlDialect) (name : String) : String :=
  let (o, c) : Char × Char := match d with
    | postgres => ('"', '"')
    | mysql => ('`', '`')
    | mssql => ('[', ']')
  String.ofList (o :: name.toList.flatMap (fun x => if x == c then [c, c] else [x]) ++ [c])

/-- How the `n`-th argument is written in the statement. -/
def placeholder (d : SqlDialect) (n : Nat) : String :=
  match d with
  | postgres => "$" ++ toString n
  | mysql => "?"
  | mssql => "@param" ++ toString n

/-- How the `n`-th argument is bound. -/
def bindArg (d : SqlDialect) (n : Nat) (v : Value) : Value :=
  match d with
  | mssql => .named ("param" ++ toString n) v
  | _ => v

/-- A condition no row satisfies. -/
def falseCondition : SqlDialect → String
  | postgres => "FALSE"
  | _ => "1=0"

/-- A case-insensitive pattern match. -/
def ilike (d : SqlDialect) (column param : String) : String :=
  match d with
  | postgres => column ++ " ILIKE " ++ param
  | _ => "LOWER(" ++ column ++ ") LIKE LOWER(" ++ param ++ ")"

/-- Binds one more argument after `args`; returns its placeholder and the arguments. -/
def bind (d : SqlDialect) (args : List Value) (v : Value) : String × List Value :=
  let n := args.length + 1
  (d.placeholder n, args ++ [d.bindArg n v])

/-- Binds several arguments in order. -/
def bindAll (d : SqlDialect) (args : List Value) : List Value → List String × List Value
  | [] => ([], args)
  | v :: rest =>
    let (p, args) := d.bind args v
    let (ps, args) := d.bindAll args rest
    (p :: ps, args)

/-- The text and new arguments of one condition. -/
def condition (d : SqlDialect) (args : List Value) (field : String) (op : Op) (v : Value) :
    Except Fault (String × List Value) :=
  let col := d.quote field
  let compare (sym : String) : Except Fault (String × List Value) :=
    let (p, args) := d.bind args v
    .ok (col ++ " " ++ sym ++ " " ++ p, args)
  match op with
  | .eq => if v matches .null then .ok (col ++ " IS NULL", args) else compare "="
  | .neq => if v matches .null then .ok (col ++ " IS NOT NULL", args) else compare "<>"
  | .gt => compare ">"
  | .gte => compare ">="
  | .lt => compare "<"
  | .lte => compare "<="
  | .oneOf =>
    match v with
    | .list (x :: xs) =>
      let (ps, args) := d.bindAll args (x :: xs)
      .ok (col ++ " IN (" ++ ", ".intercalate ps ++ ")", args)
    | _ => .ok (d.falseCondition, args)
  | .like => compare "LIKE"
  | .ilike =>
    let (p, args) := d.bind args v
    .ok (d.ilike col p, args)
  | .between =>
    match v with
    | .list [lo, hi] =>
      let (pl, args) := d.bind args lo
      let (ph, args) := d.bind args hi
      .ok (col ++ " BETWEEN " ++ pl ++ " AND " ++ ph, args)
    | _ => .error (.new .invalidFilterValue ("between on " ++ Text.quote field ++ " expects two values"))
  | .isNull =>
    match v with
    | .bool true => .ok (col ++ " IS NULL", args)
    | _ => .ok (col ++ " IS NOT NULL", args)
  | .unknown n => .error (.new .invalidFilterOperator ("unknown filter operator " ++ Text.quote n))

mutual

/-- The condition text of a tree; arguments continue after `args`. -/
def render (d : SqlDialect) (args : List Value) : Node → Except Fault (String × List Value)
  | .cond f o v => d.condition args f o v
  | .group l cs => do
    let (parts, args) ← d.renderAll args cs
    let sep := if l == .or then " OR " else " AND "
    .ok ("(" ++ sep.intercalate parts ++ ")", args)

/-- The condition texts of several trees in order. -/
def renderAll (d : SqlDialect) (args : List Value) : List Node → Except Fault (List String × List Value)
  | [] => .ok ([], args)
  | n :: rest => do
    let (p, args) ← d.render args n
    let (ps, args) ← d.renderAll args rest
    .ok (p :: ps, args)

end

/-- The WHERE condition of a filter and its arguments; empty for no filter. -/
def whereClause (d : SqlDialect) (f : Filter.Filter) : Except Fault (String × List Value) :=
  match f with
  | none => .ok ("", [])
  | some n => d.render [] n

def table (d : SqlDialect) (t : TableRef) : String :=
  if t.schema.isEmpty then d.quote t.name else d.quote t.schema ++ "." ++ d.quote t.name

def projection (d : SqlDialect) (fields : List String) : String :=
  if fields.isEmpty then "*" else ", ".intercalate (fields.map d.quote)

def orderBy (d : SqlDialect) (sort : List SortField) : String :=
  ", ".intercalate (sort.map fun f => d.quote f.field ++ (if f.desc then " DESC" else " ASC"))

/-- The page clause and the arguments with the page bound after `args`. -/
def pageClause (d : SqlDialect) (args : List Value) (size offset : Int) : String × List Value :=
  match d with
  | mssql =>
    let (o, args) := d.bind args (.int .int offset)
    let (l, args) := d.bind args (.int .int size)
    (" OFFSET " ++ o ++ " ROWS FETCH NEXT " ++ l ++ " ROWS ONLY", args)
  | _ =>
    let (l, args) := d.bind args (.int .int size)
    let (o, args) := d.bind args (.int .int offset)
    (" LIMIT " ++ l ++ " OFFSET " ++ o, args)

/-- The plan of a list request: the page statement and the counting statement. -/
def buildList (d : SqlDialect) (q : ListQuery) : Except Fault Plan := do
  let p := Page.of q.page q.pageSize
  let (w, wargs) ← d.whereClause q.filter
  let src := d.table q.table
  let whereText := if w.isEmpty then "" else " WHERE " ++ w
  let order := d.orderBy q.sort
  let order := if order.isEmpty && d == mssql then
      (match q.fields with
        | f :: _ => d.quote f
        | [] => "(SELECT NULL)")
    else order
  let orderText := if order.isEmpty then "" else " ORDER BY " ++ order
  let (pageText, args) := d.pageClause wargs p.size p.offset
  .ok { sql := "SELECT " ++ d.projection q.fields ++ " FROM " ++ src ++ whereText ++ orderText ++ pageText
        args := args
        countSql := "SELECT COUNT(*) FROM " ++ src ++ whereText
        countArgs := wargs
        page := p.page, pageSize := p.size, offset := p.offset }

/-- The plan of a single-record request: the scope and the key condition together. -/
def buildById (d : SqlDialect) (q : ByIdQuery) : Except Fault Plan := do
  if q.primaryKey.isEmpty then .error (.new .validation "entity has no primary key")
  let (w, args) ← d.whereClause (Node.both q.scope (some (.cond q.primaryKey .eq q.id)))
  .ok { sql := "SELECT " ++ d.projection q.fields ++ " FROM " ++ d.table q.table ++ " WHERE " ++ w
        args := args, page := 1, pageSize := 1 }

/-- The statement listing a table's columns with their data types, and its arguments. -/
def columnsQuery (d : SqlDialect) (t : TableRef) : String × List Value :=
  match d with
  | postgres =>
    ("SELECT column_name, data_type FROM information_schema.columns " ++
      "WHERE table_schema = $1 AND table_name = $2 ORDER BY ordinal_position",
      [.str (if t.schema.isEmpty then "public" else t.schema), .str t.name])
  | mysql =>
    if t.schema.isEmpty then
      ("SELECT COLUMN_NAME, DATA_TYPE FROM information_schema.COLUMNS " ++
        "WHERE TABLE_SCHEMA = DATABASE() AND TABLE_NAME = ? ORDER BY ORDINAL_POSITION", [.str t.name])
    else
      ("SELECT COLUMN_NAME, DATA_TYPE FROM information_schema.COLUMNS " ++
        "WHERE TABLE_SCHEMA = ? AND TABLE_NAME = ? ORDER BY ORDINAL_POSITION",
        [.str t.schema, .str t.name])
  | mssql =>
    ("SELECT COLUMN_NAME, DATA_TYPE FROM INFORMATION_SCHEMA.COLUMNS " ++
      "WHERE TABLE_SCHEMA = @param1 AND TABLE_NAME = @param2 ORDER BY ORDINAL_POSITION",
      [.named "param1" (.str (if t.schema.isEmpty then "dbo" else t.schema)),
        .named "param2" (.str t.name)])

/-- The statement listing the tables and views of the database. -/
def tablesQuery : SqlDialect → String
  | postgres => "SELECT table_schema, table_name, table_type FROM information_schema.tables " ++
      "WHERE table_catalog = current_database() ORDER BY table_schema, table_name"
  | mysql => "SELECT TABLE_SCHEMA, TABLE_NAME, TABLE_TYPE FROM information_schema.TABLES " ++
      "WHERE TABLE_SCHEMA = DATABASE() ORDER BY TABLE_NAME"
  | mssql => "SELECT TABLE_SCHEMA, TABLE_NAME, TABLE_TYPE FROM INFORMATION_SCHEMA.TABLES " ++
      "ORDER BY TABLE_SCHEMA, TABLE_NAME"

end SqlDialect

end RowGate.Query
