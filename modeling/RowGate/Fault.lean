/-!
# Faults

Why an operation did not give its result: coded faults with a message and a cause, plain
texts, signals and joined faults; a fault's text is its chain of messages.
-/

namespace RowGate

/-- The classes of failure that callers tell apart. -/
inductive Code where
  | entityNotFound
  | recordNotFound
  | serviceNotFound
  | invalidFilterField
  | invalidFilterOperator
  | invalidFilterValue
  | validation
  | conflict
  | rateLimited
  | unsupportedDatabaseType
  | policyTemplateRender
  | queryExecution
  | timeout
  | internal
  /-- A code of no known class, by its name. -/
  | other (name : String)
deriving DecidableEq, Repr, Inhabited

namespace Code

/-- The name of a code on the wire. -/
def name : Code → String
  | entityNotFound => "ENTITY_NOT_FOUND"
  | recordNotFound => "RECORD_NOT_FOUND"
  | serviceNotFound => "SERVICE_NOT_FOUND"
  | invalidFilterField => "INVALID_FILTER_FIELD"
  | invalidFilterOperator => "INVALID_FILTER_OPERATOR"
  | invalidFilterValue => "INVALID_FILTER_VALUE"
  | validation => "VALIDATION_FAILED"
  | conflict => "CONFLICT"
  | rateLimited => "RATE_LIMITED"
  | unsupportedDatabaseType => "UNSUPPORTED_DATABASE_TYPE"
  | policyTemplateRender => "POLICY_TEMPLATE_RENDER_ERROR"
  | queryExecution => "QUERY_EXECUTION_ERROR"
  | timeout => "TIMEOUT"
  | internal => "INTERNAL_ERROR"
  | other n => n

/-- The codes with a name. -/
def known : List Code :=
  [entityNotFound, recordNotFound, serviceNotFound, invalidFilterField, invalidFilterOperator,
    invalidFilterValue, validation, conflict, rateLimited, unsupportedDatabaseType,
    policyTemplateRender, queryExecution, timeout, internal]

def ofName (n : String) : Code :=
  (known.find? fun c => c.name == n).getD (other n)

/-- Whether the failure is the client's: a missing entity, record or service, a bad filter,
a failed validation, a conflict or too many requests. -/
def isClient : Code → Bool
  | entityNotFound | recordNotFound | serviceNotFound | invalidFilterField
  | invalidFilterOperator | invalidFilterValue | validation | conflict | rateLimited => true
  | _ => false

/-- The HTTP status that answers a failure of this class. -/
def httpStatus : Code → Nat
  | entityNotFound | recordNotFound | serviceNotFound => 404
  | invalidFilterField | invalidFilterOperator | invalidFilterValue | validation => 400
  | conflict => 409
  | rateLimited => 429
  | timeout => 504
  | _ => 500

end Code

/-- Conditions that lower layers signal and callers recognise by identity. -/
inductive Signal where
  | deadlineExceeded
  | canceled
  | badConnection
  | connectionDone
  | invalidConnection
  | unexpectedEnd
  | recordNotFound
  | duplicatedKey
  /-- A failure of the network under a document store's command. -/
  | network
deriving DecidableEq, Repr, Inhabited

/-- The text of a signal. -/
def Signal.text : Signal → String
  | .deadlineExceeded => "context deadline exceeded"
  | .canceled => "context canceled"
  | .badConnection => "driver: bad connection"
  | .connectionDone => "sql: connection is already closed"
  | .invalidConnection => "invalid connection"
  | .unexpectedEnd => "unexpected EOF"
  | .recordNotFound => "record not found"
  | .duplicatedKey => "duplicated key not allowed"
  | .network => "network error"

/-- Why an operation gave no result. -/
inductive Fault where
  /-- A failure of a known class, with its message and the fault it wraps. -/
  | coded (code : Code) (message : String) (cause : Option Fault)
  /-- A fault explained by the context it arose in. -/
  | wrapped (context : String) (cause : Fault)
  /-- A fault known only by its text. -/
  | plain (text : String)
  /-- A recognised condition. -/
  | signal (s : Signal)
  /-- A fault that labels a signal with its own text. -/
  | labelled (text : String) (s : Signal)
  /-- Several faults at once. -/
  | joined (faults : List Fault)
deriving Repr, Inhabited

namespace Fault

def new (code : Code) (message : String) : Fault := .coded code message none

def wrap (code : Code) (cause : Fault) (message : String) : Fault := .coded code message (some cause)

def ofContext (expired : Bool) : Fault :=
  .signal (if expired then .deadlineExceeded else .canceled)

mutual

/-- The text of a fault: its chain of messages. -/
def text : Fault → String
  | .coded c m none => c.name ++ ": " ++ m
  | .coded c m (some cause) => c.name ++ ": " ++ m ++ ": " ++ text cause
  | .wrapped ctx cause => ctx ++ ": " ++ text cause
  | .plain t => t
  | .signal s => s.text
  | .labelled t _ => t
  | .joined fs => joinedText fs

def joinedText : List Fault → String
  | [] => ""
  | [f] => text f
  | f :: rest => text f ++ "\n" ++ joinedText rest

end

mutual

/-- The outermost coded fault of the chain: its code and message. -/
def firstCoded : Fault → Option (Code × String)
  | .coded c m _ => some (c, m)
  | .wrapped _ cause => firstCoded cause
  | .joined fs => firstCodedIn fs
  | _ => none

def firstCodedIn : List Fault → Option (Code × String)
  | [] => none
  | f :: rest => (firstCoded f).orElse fun _ => firstCodedIn rest

end

mutual

/-- Whether a signal occurs anywhere in the chain. -/
def holds (s : Signal) : Fault → Bool
  | .coded _ _ (some cause) => holds s cause
  | .coded _ _ none => false
  | .wrapped _ cause => holds s cause
  | .plain _ => false
  | .signal t => t == s
  | .labelled _ t => t == s
  | .joined fs => holdsIn s fs

def holdsIn (s : Signal) : List Fault → Bool
  | [] => false
  | f :: rest => holds s f || holdsIn s rest

end

/-- The class of a fault. -/
def code (f : Fault) : Code :=
  match f.firstCoded with
  | some (c, _) => c
  | none => if f.holds .deadlineExceeded then .timeout else .internal

/-- The message shown to a client: the message itself for the client's own failures, a fixed
sentence for a timeout or an unsupported database, and `internal server error` otherwise. -/
def publicMessage (f : Fault) : String :=
  match f.firstCoded with
  | some (c, m) =>
    if c.isClient then m
    else if c == .timeout then "the query did not complete in time"
    else if c == .unsupportedDatabaseType then "the service is configured with an unsupported database type"
    else "internal server error"
  | none =>
    if f.holds .deadlineExceeded then "the query did not complete in time"
    else "internal server error"

/-- The fault a fault wraps directly, if any. -/
def unwrap : Fault → Option Fault
  | .coded _ _ cause => cause
  | .wrapped _ cause => some cause
  | _ => none

end Fault

end RowGate
