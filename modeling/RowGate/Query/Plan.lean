import RowGate.Filter.Sort
import RowGate.Filter.Basic
import RowGate.Query.Page
/-!
# Query requests and plans

List and single-record requests, and the plans builders make of them.
-/

namespace RowGate.Query

open RowGate.Filter

/-- A table, optionally inside a schema. -/
structure TableRef where
  schema : String := ""
  name : String
deriving DecidableEq, Repr, Inhabited

/-- A request for one page of rows. -/
structure ListQuery where
  table : TableRef
  fields : List String := []
  filter : Filter.Filter := none
  sort : List SortField := []
  page : Int := 0
  pageSize : Int := 0
deriving Inhabited

/-- A request for the row with a given primary key. -/
structure ByIdQuery where
  table : TableRef
  fields : List String := []
  primaryKey : String
  id : Value
  scope : Filter.Filter := none
deriving Inhabited

/-- A find on a document collection. -/
structure DocumentFind where
  collection : String
  filter : Value
  projection : Option Value
  /-- Keys with direction `1` (up) or `-1` (down). -/
  sort : List (String × Int)
  skip : Int
  limit : Int
deriving Inhabited

/-- What a builder makes of a request. -/
structure Plan where
  sql : String := ""
  args : List Value := []
  countSql : String := ""
  countArgs : List Value := []
  page : Int
  pageSize : Int
  offset : Int := 0
  find : Option DocumentFind := none
deriving Inhabited

end RowGate.Query
