import RowGate.Policy.Template
import RowGate.Policy.Field
import RowGate.Filter.Parse
/-!
# Row policies

A template decoded, rendered against the request's context and read as the filter that scopes a
read; one that fails scopes nothing open and matches nothing closed.
-/

namespace RowGate.Policy

open RowGate.Filter

/-- A row policy as stored. -/
structure RowPolicy where
  id : Nat
  entityId : Nat
  roleId : Option String
  template : String
  description : String := ""
  createdAt : Instant := Instant.zero
  updatedAt : Instant := Instant.zero
deriving DecidableEq, Repr, Inhabited

/-- How row policies that cannot be applied behave. -/
inductive FailMode where
  | openMode
  | closedMode
deriving DecidableEq, Repr, Inhabited

def FailMode.ofName (s : String) : FailMode := if s == "closed" then .closedMode else .openMode

/-- Decodes a template's first JSON value. -/
def decodeTemplate (template : String) : Except Fault Value :=
  match Json.readValue template with
  | .ok (v, _) => .ok v
  | .error e => .error (.wrap .policyTemplateRender (.plain e.message) "row policy template is not valid JSON")

/-- The filter of a template in a context. -/
def evaluate (template : String) (context : Value) (columns : List String) : Except Fault Filter.Filter := do
  let decoded ← decodeTemplate template
  let rendered ← render context decoded
  match ofValue rendered columns with
  | .ok f => .ok f
  | .error e => .error (.wrap .policyTemplateRender e "rendered row policy is not a valid filter")

/-- Checks a template when it is written. -/
def validateTemplate (template : String) (columns : List String) : Except Fault Unit := do
  let decoded ← match decodeTemplate template with
    | .ok v => .ok v
    | .error e => .error (.wrap .validation e "row policy template is not valid JSON")
  let probe ← match render (probeContext template) decoded with
    | .ok v => .ok v
    | .error e => .error (.wrap .validation e "row policy template cannot be rendered")
  match ofValue probe columns with
  | .ok _ => .ok ()
  | .error e =>
    if e.code == .invalidFilterValue && hasPlaceholders template then .ok ()
    else .error (.wrap .validation e "row policy template is not a valid filter")

/-- The field that a closed failure matches nothing on. -/
def matchNothingField (primaryKey : String) (columns : List String) : String :=
  if !primaryKey.isEmpty then primaryKey
  else match columns with
    | c :: _ => c
    | [] => "_id"

/-- The scope of a role's requests: the selected row policy's filter, or what the fail mode
gives when it cannot be applied. -/
def resolveRows (policies : List RowPolicy) (roleId : String) (context : Value)
    (columns : List String) (primaryKey : String) (mode : FailMode) : Filter.Filter :=
  match select RowPolicy.roleId policies roleId with
  | none => none
  | some p =>
    match evaluate p.template context columns with
    | .ok f => f
    | .error _ =>
      match mode with
      | .closedMode => some (Node.matchNothing (matchNothingField primaryKey columns))
      | .openMode => none

end RowGate.Policy
