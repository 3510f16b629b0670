import RowGate.Fault
import RowGate.Json.Binding
/-!
# Administrative requests

The requests that change the catalog, read from JSON bodies, and the `required` and `max` rules
of their fields, every failing field reported in order.
-/

namespace RowGate.Catalog

/-- A field that breaks a rule. -/
structure Violation where
  /-- The request's type and the field's path. -/
  key : String
  field : String
  tag : String
deriving DecidableEq, Repr

/-- The text of a violation. -/
def Violation.text (v : Violation) : String :=
  "Key: '" ++ v.key ++ "' Error:Field validation for '" ++ v.field ++ "' failed on the '" ++ v.tag ++
    "' tag"

def checkText (owner field : String) (required : Bool) (max : Nat) (s : String) : List Violation :=
  let v := fun tag => [⟨owner ++ "." ++ field, field, tag⟩]
  if required && s.isEmpty then v "required"
  else if max < s.length then v "max"
  else []

def checkItems (owner field : String) (max : Nat) (items : Option (List String)) : List Violation :=
  let xs := items.getD []
  (xs.zip (List.range xs.length)).flatMap fun (s, i) =>
    checkText owner (field ++ "[" ++ toString i ++ "]") true max s

/-- The failure of a request that breaks rules: `what` names the request. -/
def invalid (what : String) (vs : List Violation) : Fault :=
  let text := "\n".intercalate (vs.map Violation.text)
  .wrap .validation (.plain text) ("invalid " ++ what ++ ": " ++ text)

/-- A request to expose a table. -/
structure ExposeRequest where
  serviceId : String
  organizationId : String := ""
  environment : String := ""
  name : String := ""
  schema : String := ""
  primaryKey : String := ""
  pathAlias : String := ""
  defaultSort : String := ""
  /-- Absent means readable. -/
  allowRead : Option Bool := none
  allowCreate : Bool := false
  allowUpdate : Bool := false
  allowDelete : Bool := false
deriving Repr, Inhabited

/-- The violations of an expose request. -/
def ExposeRequest.violations (r : ExposeRequest) : List Violation :=
  let o := "ExposeRequest"
  checkText o "ServiceID" true 0x7fffffff r.serviceId ++ checkText o "name" true 128 r.name ++
    checkText o "schema" false 128 r.schema ++ checkText o "primaryKey" true 128 r.primaryKey ++
    checkText o "pathAlias" false 128 r.pathAlias ++ checkText o "defaultSort" false 255 r.defaultSort

/-- A request to set the field policy of a role, or the default one when the role is blank. -/
structure FieldPolicyRequest where
  roleId : String := ""
  masked : Option (List String) := none
  included : Option (List String) := none
  excluded : Option (List String) := none
deriving Repr, Inhabited

/-- The violations of a field policy request. -/
def FieldPolicyRequest.violations (r : FieldPolicyRequest) : List Violation :=
  let o := "FieldPolicyRequest"
  checkText o "roleId" false 64 r.roleId ++ checkItems o "maskedFields" 128 r.masked ++
    checkItems o "includeFields" 128 r.included ++ checkItems o "excludeFields" 128 r.excluded

/-- A request to set the row policy of a role, or the default one when the role is blank. -/
structure RowPolicyRequest where
  roleId : String := ""
  /-- The template's JSON text; absent when the request has none. -/
  template : Option String := none
  description : String := ""
  environment : String := ""
deriving Repr, Inhabited

/-- The violations of a row policy request. -/
def RowPolicyRequest.violations (r : RowPolicyRequest) : List Violation :=
  let o := "RowPolicyRequest"
  checkText o "roleId" false 64 r.roleId ++
    (if r.template.isNone then [⟨o ++ ".filterTemplate", "filterTemplate", "required"⟩] else []) ++
    checkText o "description" false 255 r.description

/-- The fields a body of an expose request fills. -/
def ExposeRequest.shape : Json.Shape :=
  ⟨"catalog.ExposeRequest", "ExposeRequest", [("name", .text), ("schema", .text), ("primaryKey", .text),
    ("pathAlias", .text), ("defaultSort", .text), ("allowRead", .optionalFlag), ("allowCreate", .flag),
    ("allowUpdate", .flag), ("allowDelete", .flag)]⟩

/-- Reads a service's expose request from a body. -/
def ExposeRequest.ofBody (serviceId organizationId environment body : String) :
    Except String ExposeRequest := do
  let b ← ExposeRequest.shape.bind body
  pure { serviceId, organizationId, environment, name := b.text "name", schema := b.text "schema"
         primaryKey := b.text "primaryKey", pathAlias := b.text "pathAlias", defaultSort := b.text "defaultSort"
         allowRead := b.flag? "allowRead", allowCreate := (b.flag? "allowCreate").getD false
         allowUpdate := (b.flag? "allowUpdate").getD false, allowDelete := (b.flag? "allowDelete").getD false }

/-- The fields a body of a field policy request fills. -/
def FieldPolicyRequest.shape : Json.Shape :=
  ⟨"catalog.FieldPolicyRequest", "FieldPolicyRequest", [("roleId", .text), ("maskedFields", .texts),
    ("includeFields", .texts), ("excludeFields", .texts)]⟩

/-- Reads a field policy request from a body. -/
def FieldPolicyRequest.ofBody (body : String) : Except String FieldPolicyRequest := do
  let b ← FieldPolicyRequest.shape.bind body
  pure { roleId := b.text "roleId", masked := b.texts? "maskedFields", included := b.texts? "includeFields"
         excluded := b.texts? "excludeFields" }

/-- The fields a body of a row policy request fills. -/
def RowPolicyRequest.shape : Json.Shape :=
  ⟨"catalog.RowPolicyRequest", "RowPolicyRequest", [("roleId", .text), ("filterTemplate", .raw),
    ("description", .text)]⟩

/-- Reads a row policy request for an environment from a body. -/
def RowPolicyRequest.ofBody (environment body : String) : Except String RowPolicyRequest := do
  let b ← RowPolicyRequest.shape.bind body
  pure { roleId := b.text "roleId", template := b.raw? "filterTemplate", description := b.text "description"
         environment }

end RowGate.Catalog
