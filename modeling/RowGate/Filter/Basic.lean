import RowGate.Json.Writer
/-!
# Filters

A filter is a tree of conditions and groups, absent when it matches everything, written the way
clients send it.
-/

namespace RowGate.Filter

/-- How a condition compares its field with its value. -/
inductive Op where
  | eq | neq | gt | gte | lt | lte
  /-- The field equals one of the listed values. -/
  | oneOf
  | like | ilike | between | isNull
  /-- An operator of no known meaning, by its name. -/
  | unknown (name : String)
deriving DecidableEq, Repr, Inhabited

namespace Op

def known : List Op := [eq, neq, gt, gte, lt, lte, oneOf, like, ilike, between, isNull]

/-- The name of an operator on the wire. -/
def name : Op → String
  | eq => "eq" | neq => "neq" | gt => "gt" | gte => "gte" | lt => "lt" | lte => "lte"
  | oneOf => "in" | like => "like" | ilike => "ilike" | between => "between"
  | isNull => "isnull" | unknown n => n

def ofName (n : String) : Op := (known.find? fun o => o.name == n).getD (unknown n)

/-- Whether the operator is one of the eleven known ones. -/
def isKnown : Op → Bool
  | unknown _ => false
  | _ => true

end Op

/-- How a group joins its children. -/
inductive Logic where
  | and | or
  /-- A logic word of no known meaning. -/
  | unknown (name : String)
deriving DecidableEq, Repr, Inhabited

namespace Logic

def name : Logic → String
  | .and => "and" | .or => "or" | .unknown n => n

/-- The logic word with the given name. -/
def ofName : String → Logic
  | "and" => .and
  | "or" => .or
  | n => .unknown n

end Logic

/-- A filter tree. -/
inductive Node where
  /-- `field op value`. -/
  | cond (field : String) (op : Op) (value : Value)
  /-- Children joined by `logic`. -/
  | group (logic : Logic) (children : List Node)
deriving Repr, Inhabited

abbrev Filter := Option Node

namespace Node

/-- Both filters: an absent one gives way to the other. -/
def both : Filter → Filter → Filter
  | none, b => b
  | a, none => a
  | some a, some b => some (.group .and [a, b])

def matchNothing (field : String) : Node := .cond field .oneOf (.list [])

mutual

/-- The conditions of a tree, depth first. -/
def conditions : Node → List (String × Op × Value)
  | .cond f o v => [(f, o, v)]
  | .group _ cs => conditionsOf cs

/-- The conditions of several trees in order. -/
def conditionsOf : List Node → List (String × Op × Value)
  | [] => []
  | n :: rest => conditions n ++ conditionsOf rest

end

/-- The distinct field names of a filter, in order of first appearance. -/
def fields (f : Filter) : List String :=
  let all := match f with
    | none => []
    | some n => n.conditions.map fun (c : String × Op × Value) => c.1
  all.foldl (fun acc x => if acc.contains x then acc else acc ++ [x]) []

mutual

/-- The JSON text of a tree. -/
def toJson : Node → Except Json.WriteError String
  | .cond f o v => do
    let w ← Json.write v
    .ok ("\x7b\"field\":" ++ Json.quote f ++ ",\"op\":" ++ Json.quote o.name ++ ",\"value\":" ++
      w ++ "\x7d")
  | .group l cs => do
    let parts ← toJsonList cs
    .ok ("\x7b" ++ Json.quote l.name ++ ":[" ++ ",".intercalate parts ++ "]\x7d")

def toJsonList : List Node → Except Json.WriteError (List String)
  | [] => .ok []
  | n :: rest => do
    let w ← toJson n
    let ws ← toJsonList rest
    .ok (w :: ws)

end

/-- The JSON text of a filter; `null` when absent. -/
def filterJson : Filter → Except Json.WriteError String
  | none => .ok "null"
  | some n => n.toJson

/-- Two filters are equal when both have JSON texts and the texts agree. -/
def equal (a b : Filter) : Bool :=
  match filterJson a, filterJson b with
  | .ok x, .ok y => x == y
  | _, _ => false

end Node

end RowGate.Filter
