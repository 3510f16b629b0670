import RowGate.Query.Plan
import RowGate.Text.Quoted
import RowGate.Fault
/-!
# Document queries

A filter as a match document, and a LIKE pattern as a regular expression.
-/

namespace RowGate.Query

open RowGate.Filter

def isRegexMeta (c : Char) : Bool := "\\.+*?()|[]{}^$".toList.contains c

/-- The regular expression of a LIKE pattern. -/
def likeToRegex (pattern : String) : String :=
  String.ofList (pattern.toList.flatMap fun c =>
    if c == '%' then ['.', '*']
    else if c == '_' then ['.']
    else if isRegexMeta c then ['\\', c]
    else [c])

def single (key : String) (v : Value) : Value := .obj [(key, v)]

/-- The match document of one condition. -/
def conditionDocument (field : String) (op : Op) (v : Value) : Except Fault Value :=
  let cmp (key : String) : Except Fault Value := .ok (single field (single key v))
  match op with
  | .eq => if v matches .null then .ok (single field .null) else cmp "$eq"
  | .neq => cmp "$ne"
  | .gt => cmp "$gt"
  | .gte => cmp "$gte"
  | .lt => cmp "$lt"
  | .lte => cmp "$lte"
  | .oneOf =>
    let items := match v with
      | .list xs => xs
      | _ => []
    .ok (single field (single "$in" (.list items)))
  | .like | .ilike =>
    let pattern := match v with
      | .str s => s
      | _ => ""
    let regex : List (String × Value) := [("$regex", .str (likeToRegex pattern))]
    let entries := if op == .ilike then ("$options", .str "i") :: regex else regex
    .ok (single field (.obj entries))
  | .between =>
    match v with
    | .list [lo, hi] => .ok (single field (.obj [("$gte", lo), ("$lte", hi)]))
    | _ => .error (.new .invalidFilterValue ("between on " ++ Text.quote field ++ " expects two values"))
  | .isNull =>
    match v with
    | .bool true => .ok (single field .null)
    | _ => .ok (single field (single "$ne" .null))
  | .unknown n => .error (.new .invalidFilterOperator ("unknown filter operator " ++ Text.quote n))

mutual

/-- The match document of a tree. -/
def nodeDocument : Node → Except Fault Value
  | .cond f o v => conditionDocument f o v
  | .group l cs => do
    let docs ← nodeDocuments cs
    .ok (single ("$" ++ l.name) (.list docs))

/-- The match documents of several trees. -/
def nodeDocuments : List Node → Except Fault (List Value)
  | [] => .ok []
  | n :: rest => do
    let d ← nodeDocument n
    let ds ← nodeDocuments rest
    .ok (d :: ds)

end

/-- The match document of a filter: the empty document for none. -/
def matchDocument : Filter.Filter → Except Fault Value
  | none => .ok (.obj [])
  | some n => nodeDocument n

def documentProjection (fields : List String) : Option Value :=
  if fields.isEmpty then none
  else
    let shown := Entries.ofList (fields.map fun f => (f, .int .int 1))
    some (.obj (if (Entries.get? shown "_id").isSome then shown else Entries.insert "_id" (.int .int 0) shown))

/-- The plan of a list request on a collection. -/
def documentList (q : ListQuery) : Except Fault Plan := do
  let p := Page.of q.page q.pageSize
  let m ← matchDocument q.filter
  .ok { page := p.page, pageSize := p.size, offset := p.offset
        find := some { collection := q.table.name, filter := m
                       projection := documentProjection q.fields
                       sort := q.sort.map fun f => (f.field, if f.desc then -1 else 1)
                       skip := p.offset, limit := p.size } }

/-- The plan of a single-record request on a collection. A text id of the `_id` key that
spells a document id is matched as that id. -/
def documentById (q : ByIdQuery) : Except Fault Plan := do
  if q.primaryKey.isEmpty then .error (.new .validation "entity has no primary key")
  let id := match q.id with
    | .str s =>
      if q.primaryKey == "_id" then
        match ObjectId.ofHex? s with
        | some oid => .objectId oid
        | none => q.id
      else q.id
    | v => v
  let m ← matchDocument (Node.both q.scope (some (.cond q.primaryKey .eq id)))
  .ok { page := 1, pageSize := 1
        find := some { collection := q.table.name, filter := m
                       projection := documentProjection q.fields
                       sort := [], skip := 0, limit := 1 } }

end RowGate.Query
