import RowGate.Query.Sql
import RowGate.Query.Document
/-!
# Query builders

Each kind of database has its builder: the three SQL dialects and the document builder.
-/

namespace RowGate.Query

/-- The builder of a kind of database. -/
inductive Builder where
  | sql (d : SqlDialect)
  | document
deriving DecidableEq, Repr, Inhabited

namespace Builder

/-- The builder for a kind. -/
def ofKind : Kind → Builder
  | .postgres => .sql .postgres
  | .mysql => .sql .mysql
  | .mssql => .sql .mssql
  | .mongodb => .document

def forName (s : String) : Except Fault Builder := (Kind.ofName s).map ofKind

/-- The kind the builder serves. -/
def kind : Builder → Kind
  | .sql d => d.kind
  | .document => .mongodb

/-- The plan of a list request. -/
def buildList : Builder → ListQuery → Except Fault Plan
  | .sql d, q => d.buildList q
  | .document, q => documentList q

/-- The plan of a single-record request. -/
def buildById : Builder → ByIdQuery → Except Fault Plan
  | .sql d, q => d.buildById q
  | .document, q => documentById q

end Builder

end RowGate.Query
