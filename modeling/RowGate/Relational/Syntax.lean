import RowGate.Relational.Datum
/-!
# Statements of the relational store

Queries, definitions, writes and session statements, and their expressions.
-/

namespace RowGate.Relational

/-- A binary operator. -/
inductive BinOp where
  | eq | ne | lt | le | gt | ge | nullSafeEq
  | and | or | xor
  | add | sub | mul | div | intDiv | mod
deriving DecidableEq, Repr, Inhabited

/-- An expression. -/
inductive Expr where
  | lit (d : Datum) (type : ColumnType)
  /-- The argument that has `after` arguments after it. -/
  | param (after : Nat)
  | column (qualifier : Option String) (name : String)
  | neg (e : Expr)
  | not (e : Expr)
  | binary (op : BinOp) (a b : Expr)
  | isNull (e : Expr) (negated : Bool)
  | isTruth (e : Expr) (truth : Bool) (negated : Bool)
  | inList (e : Expr) (items : List Expr) (negated : Bool)
  | between (e lo hi : Expr) (negated : Bool)
  | like (e pattern : Expr) (negated : Bool)
  | call (name : String) (args : List Expr)
  | cast (e : Expr) (target : ColumnType)
  | countAll
  | count (e : Expr)
deriving Repr, Inhabited

/-- An item of a projection: every column, or an expression with the text that names it. -/
inductive SelectItem where
  | star
  | expr (e : Expr) (aliasName : Option String) (text : String)
deriving Repr, Inhabited

/-- A table or view, optionally inside a named database. -/
structure TableName where
  schema : Option String := none
  name : String
deriving DecidableEq, Repr, Inhabited

/-- One term of an order. -/
structure OrderTerm where
  expr : Expr
  desc : Bool
deriving Repr, Inhabited

/-- A query. -/
structure Select where
  items : List SelectItem
  source : Option TableName := none
  filter : Option Expr := none
  order : List OrderTerm := []
  limit : Option Expr := none
  offset : Option Expr := none
deriving Repr, Inhabited

/-- A column in a table definition. -/
structure ColumnDef where
  name : String
  type : ColumnType
  nullable : Bool := true
  primary : Bool := false
  unique : Bool := false
  autoIncrement : Bool := false
  default : Option Expr := none
deriving Repr, Inhabited

/-- A statement. -/
inductive Statement where
  | select (q : Select)
  | createTable (name : TableName) (columns : List ColumnDef) (primaryKey : List String)
      (uniques : List (String × List String)) (ifNotExists : Bool)
  | createView (name : TableName) (query : Select) (orReplace : Bool)
  | createIndex (name : String) (table : TableName) (columns : List String) (unique : Bool)
  | insert (table : TableName) (columns : Option (List String)) (rows : List (List Expr))
  | update (table : TableName) (sets : List (String × Expr)) (filter : Option Expr)
  | delete (table : TableName) (filter : Option Expr)
  | dropTable (names : List TableName) (ifExists : Bool)
  | dropView (names : List TableName) (ifExists : Bool)
  | dropColumn (table : TableName) (column : String)
  | addColumn (table : TableName) (column : ColumnDef)
  | setVariables (assignments : List (String × Expr))
  | transaction (word : String)
deriving Repr, Inhabited

end RowGate.Relational
