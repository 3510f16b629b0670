import RowGate.Relational.Eval
import RowGate.Relational.Parser
/-!
# Databases of the relational store

Named databases of tables and views, queries over one source, and writes that convert values and
keep keys unique.
-/

namespace RowGate.Relational

/-- A column of a table. -/
structure Column where
  name : String
  type : ColumnType
  nullable : Bool := true
  default : Option Datum := none
  autoIncrement : Bool := false
deriving Repr, Inhabited

/-- An index of a table. -/
structure Index where
  name : String
  columns : List String
  unique : Bool
deriving Repr, Inhabited

/-- A table: its columns, keys and rows. -/
structure Table where
  name : String
  columns : List Column
  primaryKey : List String := []
  indexes : List Index := []
  rows : List (List Datum) := []
  /-- The next automatic id. -/
  nextId : Int := 1
deriving Repr, Inhabited

/-- A view: a stored query. -/
structure View where
  name : String
  query : Select
deriving Repr, Inhabited

/-- A database: tables and views by name. -/
structure Database where
  name : String
  tables : List Table := []
  views : List View := []
deriving Repr, Inhabited

/-- A server: databases by name. -/
structure Server where
  databases : List Database := []
deriving Repr, Inhabited

/-- The answer of a query: typed columns and rows. -/
structure Answer where
  columns : List (String × ColumnType)
  rows : List (List Datum)
deriving Repr, Inhabited

/-- What a statement gives: an answer, or the count of rows it changed with the last
automatic id it gave (zero when it gave none). -/
inductive Outcome where
  | answer (a : Answer)
  | changed (rows : Nat) (lastId : Int)
deriving Repr, Inhabited

namespace ServerError

/-- A second row with a key already present. -/
def duplicate (primary : Bool) (key : List String) : ServerError :=
  ⟨1062, "23000", "duplicate " ++ (if primary then "primary" else "unique") ++ " key given: [" ++
    ",".intercalate key ++ "]"⟩

def notNullable (column : String) : ServerError :=
  ⟨1048, "23000", "column name '" ++ column ++ "' is non-nullable but attempted to set a value of null"⟩

def tableExists (name : String) : ServerError := ⟨1050, "42S01", "table with name " ++ name ++ " already exists"⟩

def databaseNotFound (name : String) : ServerError := ⟨1049, "42000", "database not found: " ++ name⟩

def noDatabase : ServerError := ⟨1046, "3D000", "no database selected"⟩

end ServerError

def sameName (a b : String) : Bool := a.lowerCase == b.lowerCase

namespace Table

def typedColumns (t : Table) : List (String × ColumnType) := t.columns.map fun c => (c.name, c.type)

def position? (t : Table) (name : String) : Option Nat := t.columns.findIdx? (sameName ·.name name)

def keyOf (t : Table) (cols : List String) (row : List Datum) : List Datum :=
  cols.map fun c => match t.position? c with
    | some i => row.getD i .null
    | none => .null

def uniqueKeys (t : Table) : List (Bool × List String) :=
  (if t.primaryKey.isEmpty then [] else [(true, t.primaryKey)]) ++
    (t.indexes.filter (·.unique)).map fun i => (false, i.columns)

end Table

def sameKeyPart (t : ColumnType) (a b : Datum) : Bool :=
  match compareTyped ⟨t, a⟩ ⟨t, b⟩ with
  | .ok (some .eq) => true
  | _ => false

def keyTexts (t : Table) (cols : List String) (key : List Datum) : List String :=
  (cols.zip key).map fun (c, d) =>
    let ty := ((t.columns.find? (sameName ·.name c)).map (·.type)).getD ColumnType.longText
    d.asText ty

def checkUnique (t : Table) (others : List (List Datum)) (row : List Datum) : Run Unit :=
  t.uniqueKeys.forM fun (primary, cols) => do
    let key := t.keyOf cols row
    let types := cols.map fun c => ((t.columns.find? (sameName ·.name c)).map (·.type)).getD ColumnType.longText
    let clash := others.any fun other =>
      let k := t.keyOf cols other
      (types.zip (key.zip k)).all fun (ty, a, b) => sameKeyPart ty a b
    if clash then throw (.duplicate primary (keyTexts t cols key)) else pure ()

def coerce (c : Column) (v : Typed) : Run Datum := do
  if v.isNull then
    if c.nullable then pure .null else throw (.notNullable c.name)
  else match c.type with
    | .integer .. | .year => pure (.int v.toInt)
    | .bit _ => match v.datum with
      | .bytes b => pure (.int (b.foldl (fun n x => n * 256 + x.toNat) 0))
      | _ => pure (.int v.toInt)
    | .double => pure (.double v.toDouble)
    | .float =>
      match v.datum with
      | .single x => pure (.single x)
      | _ => let (n, p, q) := ratioOf v.toDouble; pure (.single (Number.Binary32.ofRatio n p q))
    | .decimal _ s => pure (.fixed (v.toFixed.rescale s))
    | .char _ => pure (.text (String.ofList (v.toText.toList.reverse.dropWhile (· == ' ')).reverse))
    | .varchar _ | .text _ => pure (.text v.toText)
    | .enumeration ms =>
      match v.datum with
      | .int n => pure (.text (ms.getD (n.toNat - 1) ""))
      | _ =>
        let t := v.toText
        match ms.find? (sameName · t) with
        | some m => pure (.text m)
        | none => throw (.other ("value " ++ t ++ " is not valid for this Enum"))
    | .varbinary _ | .binary _ | .blob _ => pure (.bytes v.toBytes)
    | .date =>
      match v.toInstant? with
      | some i => pure (.instant ⟨i.seconds - i.seconds % 86400, 0⟩)
      | none => throw (.other ("Incorrect date value: '" ++ v.toText ++ "'"))
    | .datetime p | .timestamp p =>
      match v.toInstant? with
      | some i =>
        let unit := Nat.pow 10 (9 - min p 9)
        pure (.instant ⟨i.seconds, i.nanos / unit * unit⟩)
      | none => throw (.other ("Incorrect datetime value: '" ++ v.toText ++ "'"))
    | .json =>
      match v.datum with
      | .json d => pure (.json d)
      | _ =>
        match Json.readValue v.toText with
        | .ok (d, rest) =>
          if Json.moreFollows rest then throw (.other ("Invalid JSON text: " ++ v.toText)) else pure (.json d)
        | .error _ => throw (.other ("Invalid JSON text: " ++ v.toText))
    | .null => pure .null

def tablesAnswer (srv : Server) : Answer :=
  let cols : List (String × ColumnType) :=
    [("TABLE_CATALOG", .varchar 64), ("TABLE_SCHEMA", .varchar 64), ("TABLE_NAME", .varchar 64),
      ("TABLE_TYPE", .varchar 64), ("TABLE_ROWS", .integer .big true)]
  let rows := srv.databases.flatMap fun db =>
    (db.tables.map fun t => [Datum.text "def", .text db.name, .text t.name, .text "BASE TABLE", .int t.rows.length]) ++
    (db.views.map fun v => [Datum.text "def", .text db.name, .text v.name, .text "VIEW", .null])
  ⟨cols, rows.mergeSort fun a b => (a.getD 2 .null).asText ColumnType.longText ≤ (b.getD 2 .null).asText ColumnType.longText⟩

def columnsColumns : List (String × ColumnType) :=
  [("TABLE_CATALOG", .varchar 64), ("TABLE_SCHEMA", .varchar 64), ("TABLE_NAME", .varchar 64),
    ("COLUMN_NAME", .varchar 64), ("ORDINAL_POSITION", .integer .regular true),
    ("COLUMN_DEFAULT", ColumnType.longText), ("IS_NULLABLE", .varchar 3), ("DATA_TYPE", ColumnType.longText),
    ("COLUMN_TYPE", ColumnType.longText), ("COLUMN_KEY", .varchar 3), ("EXTRA", .varchar 256)]

def columnRow (db table : String) (i : Nat) (name : String) (t : ColumnType) (nullable : Bool)
    (key : String) (extra : String) : List Datum :=
  [.text "def", .text db, .text table, .text name, .int (i + 1), .null,
    .text (if nullable then "YES" else "NO"), .text t.dataType, .text t.columnType, .text key, .text extra]

def projectedColumns (env : Env) (cols : List (String × ColumnType)) : List SelectItem → List (String × ColumnType)
  | [] => []
  | .star :: rest => cols ++ projectedColumns env cols rest
  | .expr e aliasName text :: rest =>
    let name := match aliasName with
      | some a => a
      | none => match e with
        | .column _ n => n
        | _ => text
    (name, typeOf env cols e) :: projectedColumns env cols rest

def orderOf (a b : Typed) : Ordering :=
  match a.isNull, b.isNull with
  | true, true => .eq
  | true, false => .lt
  | false, true => .gt
  | false, false => match compareTyped a b with
    | .ok (some o) => o
    | _ => .eq

def orderRows (dirs : List Bool) : List Typed → List Typed → Ordering
  | a :: as, b :: bs =>
    let o := orderOf a b
    let o := if dirs.headD false then o.swap else o
    if o == .eq then orderRows (dirs.drop 1) as bs else o
  | _, _ => .eq

def pageNumber (v : Typed) : Nat := v.toInt.toNat

def Expr.isCount : Expr → Bool
  | .countAll | .count _ => true
  | _ => false

def projectRow (env : Env) (scope : Scope) : List SelectItem → Run (List Datum)
  | [] => pure []
  | .star :: rest => do pure (scope.row ++ (← projectRow env scope rest))
  | .expr e _ _ :: rest => do
    let v ← eval env scope e
    pure (v.datum :: (← projectRow env scope rest))

namespace Server

def database? (srv : Server) (name : String) : Option Database :=
  srv.databases.find? (sameName ·.name name)

def updateDatabase (srv : Server) (name : String) (f : Database → Database) : Server :=
  { srv with databases := srv.databases.map fun d => if sameName d.name name then f d else d }

def addDatabase (srv : Server) (name : String) : Server :=
  if (srv.database? name).isSome then srv else { srv with databases := srv.databases ++ [{ name }] }

/-- The database a statement addresses: the named one or the current one. -/
def target (srv : Server) (env : Env) (schema : Option String) : Run Database :=
  match schema.orElse fun _ => env.database with
  | none => throw .noDatabase
  | some n => match srv.database? n with
    | some d => pure d
    | none => throw (.databaseNotFound n)

def columnsAnswer (srv : Server) (fuel : Nat) : Answer :=
  let rows := srv.databases.flatMap fun db =>
    (db.tables.flatMap fun t =>
      (t.columns.zip (List.range t.columns.length)).map fun (c, i) =>
        let key := if t.primaryKey.any (sameName · c.name) then "PRI"
          else if t.indexes.any (fun ix => ix.unique && ix.columns.any (sameName · c.name)) then "UNI" else ""
        columnRow db.name t.name i c.name c.type c.nullable key (if c.autoIncrement then "auto_increment" else "")) ++
    (db.views.flatMap fun v =>
      let cols := viewColumns srv db fuel v.query
      (cols.zip (List.range cols.length)).map fun ((n, ty), i) => columnRow db.name v.name i n ty true "" "")
  ⟨columnsColumns, rows⟩
where
  /-- The typed columns a view's query gives. -/
  viewColumns (srv : Server) (db : Database) : Nat → Select → List (String × ColumnType)
    | 0, _ => []
    | fuel + 1, q =>
      let env : Env := { database := some db.name }
      let src := match q.source with
        | none => []
        | some n =>
          let d := (n.schema.bind srv.database?).getD db
          match d.tables.find? (sameName ·.name n.name) with
          | some t => t.typedColumns
          | none => match d.views.find? (sameName ·.name n.name) with
            | some v => viewColumns srv d fuel v.query
            | none => []
      projectedColumns env src q.items

mutual

/-- The rows of a source with their typed columns; `fuel` bounds nested views. -/
def source (srv : Server) (env : Env) : Nat → Option TableName → Run (Option String × Answer)
  | _, none => pure (none, ⟨[], [[]]⟩)
  | 0, some n => throw (.tableNotFound n.name)
  | fuel + 1, some n => do
    if n.schema.map (sameName "information_schema") == some true then
      if sameName n.name "TABLES" then pure (some n.name, tablesAnswer srv)
      else if sameName n.name "COLUMNS" then pure (some n.name, srv.columnsAnswer 8)
      else throw (.tableNotFound n.name)
    else
      let db ← srv.target env n.schema
      match db.tables.find? (sameName ·.name n.name) with
      | some t => pure (some t.name, ⟨t.typedColumns, t.rows⟩)
      | none =>
        match db.views.find? (sameName ·.name n.name) with
        | some v => do
          let a ← query srv { env with args := [], database := some db.name } fuel v.query
          pure (some v.name, a)
        | none => throw (.tableNotFound n.name)

/-- The answer of a query; `fuel` bounds nested views. -/
def query (srv : Server) (env : Env) : Nat → Select → Run Answer
  | 0, _ => throw (.other "view nesting too deep")
  | fuel + 1, q => do
    let (name, src) ← source srv env fuel q.source
    let scopeOf := fun (row : List Datum) => ({ source := name, columns := src.columns, row } : Scope)
    let kept ← src.rows.filterM fun row => do
      match q.filter with
      | none => pure true
      | some c => pure ((← eval env (scopeOf row) c).truth == some true)
    let counting := q.items.any fun i => match i with
      | .expr e _ _ => e.isCount
      | .star => false
    let cols := projectedColumns env src.columns q.items
    if counting then
      let counts ← q.items.mapM fun i => match i with
        | .expr .countAll _ _ => pure (Datum.int kept.length)
        | .expr (.count e) _ _ => do
          let n ← kept.foldlM (fun n row => do
            let v ← eval env (scopeOf row) e
            pure (if v.isNull then n else n + 1)) 0
          pure (Datum.int n)
        | .expr e _ _ => match kept.head? with
          | some row => do pure (← eval env (scopeOf row) e).datum
          | none => pure .null
        | .star => pure .null
      pure ⟨cols, [counts]⟩
    else
      let aliases := q.items.filterMap fun i => match i with
        | .expr e (some a) _ => some (a, e)
        | _ => none
      let orderExpr := fun (t : OrderTerm) => match t.expr with
        | .column none n => match aliases.find? (sameName ·.1 n) with
          | some (_, e) => e
          | none => t.expr
        | e => e
      let keyed ← kept.mapM fun row => do
        let keys ← q.order.mapM fun t => eval env (scopeOf row) (orderExpr t)
        pure (keys, row)
      let dirs := q.order.map (·.desc)
      let sorted := if q.order.isEmpty then keyed
        else keyed.mergeSort fun a b => orderRows dirs a.1 b.1 != .gt
      let offset ← match q.offset with
        | some e => do pure (pageNumber (← eval env {} e))
        | none => pure 0
      let page ← match q.limit with
        | some e => do
          let n := pageNumber (← eval env {} e)
          pure ((sorted.drop offset).take n)
        | none => pure (sorted.drop offset)
      let rows ← page.mapM fun (_, row) => projectRow env (scopeOf row) q.items
      pure ⟨cols, rows⟩

end

def updateTable (srv : Server) (db : String) (name : String) (f : Table → Table) : Server :=
  srv.updateDatabase db fun d => { d with tables := d.tables.map fun t => if sameName t.name name then f t else t }

def writeTarget (srv : Server) (env : Env) (n : TableName) : Run (Database × Table) := do
  let db ← srv.target env n.schema
  match db.tables.find? (sameName ·.name n.name) with
  | some t => pure (db, t)
  | none => throw (.tableNotFound n.name)

def buildRow (env : Env) (t : Table) (given : List (String × Expr)) : Run (List Datum × Table) := do
  let (cells, t) ← t.columns.foldlM (fun (acc : List Datum × Table) c => do
    let (cells, t) := acc
    match given.find? (sameName ·.1 c.name) with
    | some (_, e) =>
      let v ← eval env {} e
      if c.autoIncrement && (v.isNull || v.toInt == 0) then
        pure (cells ++ [.int t.nextId], { t with nextId := t.nextId + 1 })
      else
        let d ← coerce c v
        let t := if c.autoIncrement then { t with nextId := max t.nextId (v.toInt + 1) } else t
        pure (cells ++ [d], t)
    | none =>
      if c.autoIncrement then pure (cells ++ [.int t.nextId], { t with nextId := t.nextId + 1 })
      else match c.default with
        | some d => pure (cells ++ [d], t)
        | none =>
          if c.nullable then pure (cells ++ [.null], t)
          else
            let zero : Datum := match c.type with
              | .integer .. | .year | .bit _ => .int 0
              | .decimal _ s => .fixed ⟨0, s⟩
              | .double => .double (Number.Binary64.ofInt 0)
              | .varbinary _ | .binary _ | .blob _ => .bytes []
              | _ => .text ""
            pure (cells ++ [zero], t)) ([], t)
  pure (cells, t)

/-- Runs a statement that changes the server, or a query; gives what it yields. -/
def execute (srv : Server) (env : Env) (st : Statement) : Run (Outcome × Server) := do
  match st with
  | .select q => pure (.answer (← srv.query env 16 q), srv)
  | .createTable n cols pk uniques ifNot =>
    let db ← srv.target env n.schema
    if (db.tables.any (sameName ·.name n.name)) || (db.views.any (sameName ·.name n.name)) then
      if ifNot then pure (.changed 0 0, srv) else throw (.tableExists n.name)
    else
      let columns ← cols.mapM fun c => do
        let d ← match c.default with
          | some e => do
            let v ← eval env {} e
            pure (some (← coerce { name := c.name, type := c.type } v))
          | none => pure none
        pure ({ name := c.name, type := c.type, nullable := c.nullable && !pk.any (sameName · c.name)
                default := d, autoIncrement := c.autoIncrement } : Column)
      let t : Table := { name := n.name, columns, primaryKey := pk
                         indexes := uniques.map fun (i, cs) => ⟨i, cs, true⟩ }
      pure (.changed 0 0, srv.updateDatabase db.name fun d => { d with tables := d.tables ++ [t] })
  | .createView n q orReplace =>
    let db ← srv.target env n.schema
    if db.tables.any (sameName ·.name n.name) then throw (.tableExists n.name)
    else if db.views.any (sameName ·.name n.name) && !orReplace then throw (.tableExists n.name)
    else
      let _ ← srv.query { env with database := some db.name } 16 q
      pure (.changed 0 0, srv.updateDatabase db.name fun d =>
        { d with views := (d.views.filter (!sameName ·.name n.name)) ++ [⟨n.name, q⟩] })
  | .createIndex name n cols unique =>
    let (db, t) ← srv.writeTarget env n
    for c in cols do
      if (t.position? c).isNone then throw (.columnNotFound c)
    let t' := { t with indexes := t.indexes ++ [⟨name, cols, unique⟩] }
    if unique then
      let _ ← t'.rows.foldlM (fun (seen : List (List Datum)) row => do
        checkUnique { t' with primaryKey := [], indexes := [⟨name, cols, true⟩] } seen row
        pure (seen ++ [row])) []
    pure (.changed 0 0, srv.updateTable db.name t.name fun _ => t')
  | .insert n cols rows =>
    let (db, t) ← srv.writeTarget env n
    let names := cols.getD (t.columns.map (·.name))
    for c in names do
      if (t.position? c).isNone then throw (.other ("Unknown column '" ++ c ++ "' in 'field list'"))
    let t ← rows.foldlM (fun t exprs => do
      if exprs.length != names.length then
        throw ⟨1136, "21S01", "number of values does not match number of columns provided"⟩
      let (row, t) ← buildRow env t (names.zip exprs)
      checkUnique t t.rows row
      pure { t with rows := t.rows ++ [row] }) t
    let lastId := if t.columns.any (·.autoIncrement) then t.nextId - 1 else 0
    pure (.changed rows.length lastId, srv.updateTable db.name t.name fun _ => t)
  | .update n sets filter =>
    let (db, t) ← srv.writeTarget env n
    for (c, _) in sets do
      if (t.position? c).isNone then throw (.columnNotFound c)
    let scopeOf := fun (row : List Datum) => ({ source := some t.name, columns := t.typedColumns, row } : Scope)
    let (rows, count) ← t.rows.foldlM (fun (acc : List (List Datum) × Nat) row => do
      let hit ← match filter with
        | none => pure true
        | some c => pure ((← eval env (scopeOf row) c).truth == some true)
      if !hit then pure (acc.1 ++ [row], acc.2)
      else
        let row' ← (t.columns.zip row).mapM fun (c, d) => do
          match sets.find? (sameName ·.1 c.name) with
          | some (_, e) => coerce c (← eval env (scopeOf row) e)
          | none => pure d
        pure (acc.1 ++ [row'], acc.2 + 1)) ([], 0)
    let _ ← rows.foldlM (fun (seen : List (List Datum)) row => do
      checkUnique t seen row
      pure (seen ++ [row])) []
    pure (.changed count 0, srv.updateTable db.name t.name fun t => { t with rows })
  | .delete n filter =>
    let (db, t) ← srv.writeTarget env n
    let scopeOf := fun (row : List Datum) => ({ source := some t.name, columns := t.typedColumns, row } : Scope)
    let kept ← t.rows.filterM fun row => do
      match filter with
      | none => pure false
      | some c => pure ((← eval env (scopeOf row) c).truth != some true)
    pure (.changed (t.rows.length - kept.length) 0, srv.updateTable db.name t.name fun t => { t with rows := kept })
  | .dropTable names ifExists =>
    let srv ← names.foldlM (fun srv n => do
      let db ← srv.target env n.schema
      if db.tables.any (sameName ·.name n.name) then
        pure (srv.updateDatabase db.name fun d => { d with tables := d.tables.filter (!sameName ·.name n.name) })
      else if ifExists then pure srv
      else throw (.tableNotFound n.name)) srv
    pure (.changed 0 0, srv)
  | .dropView names ifExists =>
    let srv ← names.foldlM (fun srv n => do
      let db ← srv.target env n.schema
      if db.views.any (sameName ·.name n.name) then
        pure (srv.updateDatabase db.name fun d => { d with views := d.views.filter (!sameName ·.name n.name) })
      else if ifExists then pure srv
      else throw (.tableNotFound n.name)) srv
    pure (.changed 0 0, srv)
  | .dropColumn n c =>
    let (db, t) ← srv.writeTarget env n
    match t.position? c with
    | none => throw (.other ("table " ++ t.name ++ " does not have column " ++ c))
    | some i =>
      let t' := { t with columns := t.columns.eraseIdx i, rows := t.rows.map (·.eraseIdx i)
                         primaryKey := t.primaryKey.filter (!sameName · c)
                         indexes := t.indexes.filter fun ix => !ix.columns.any (sameName · c) }
      pure (.changed 0 0, srv.updateTable db.name t.name fun _ => t')
  | .addColumn n c =>
    let (db, t) ← srv.writeTarget env n
    if (t.position? c.name).isSome then throw (.other ("Duplicate column name '" ++ c.name ++ "'"))
    let d ← match c.default with
      | some e => do pure (some (← coerce { name := c.name, type := c.type } (← eval env {} e)))
      | none => pure none
    let col : Column := { name := c.name, type := c.type, nullable := c.nullable, default := d }
    let t' := { t with columns := t.columns ++ [col], rows := t.rows.map (· ++ [d.getD .null]) }
    pure (.changed 0 0, srv.updateTable db.name t.name fun _ => t')
  | .setVariables assignments =>
    for (name, _) in assignments do
      unless knownVariables.any (sameName · name) do
        throw (.columnNotFound name)
    pure (.changed 0 0, srv)
  | .transaction _ => pure (.changed 0 0, srv)
where
  /-- The session variables a client may set; any other name in a `SET` reads as a column,
  and a `SET` has no columns in scope. -/
  knownVariables : List String :=
    ["sql_mode", "autocommit", "time_zone", "names", "character_set_client", "character_set_results",
      "character_set_connection", "collation_connection", "transaction_isolation", "tx_isolation",
      "max_allowed_packet", "sql_select_limit", "foreign_key_checks", "unique_checks", "wait_timeout",
      "net_write_timeout", "net_read_timeout", "session_track_gtids", "sql_safe_updates"]

/-- Reads and runs one statement text. -/
def run (srv : Server) (env : Env) (text : String) : Run (Outcome × Server) := do
  let st ← match parseStatement text with
    | .ok st => pure st
    | .error e => throw ⟨1064, "42000", e⟩
  if let some d := env.database then
    if (srv.database? d).isNone then throw (.databaseNotFound d)
  srv.execute env st

end Server

end RowGate.Relational
