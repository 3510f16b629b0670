import RowGate.Text.Case
/-!
# Column types of the relational store

MySQL-compatible column types with their names and the classes comparisons use.
-/

namespace RowGate.Relational

/-- The widths of integer columns. -/
inductive IntWidth where
  | tiny | small | medium | regular | big
deriving DecidableEq, Repr, Inhabited

/-- The sizes of text and blob columns. -/
inductive Size where
  | tiny | regular | medium | long
deriving DecidableEq, Repr, Inhabited

/-- A column type. -/
inductive ColumnType where
  | integer (width : IntWidth) (unsigned : Bool)
  | double
  | float
  | decimal (precision scale : Nat)
  | varchar (length : Nat)
  | char (length : Nat)
  | text (size : Size)
  | varbinary (length : Nat)
  | binary (length : Nat)
  | blob (size : Size)
  | year
  | date
  | datetime (precision : Nat)
  | timestamp (precision : Nat)
  | json
  | enumeration (members : List String)
  | bit (width : Nat)
  /-- The type of a bare `NULL`. -/
  | null
deriving DecidableEq, Repr, Inhabited

namespace IntWidth

def bits : IntWidth → Nat
  | tiny => 8 | small => 16 | medium => 24 | regular => 32 | big => 64

/-- The upper-case name of the width. -/
def name : IntWidth → String
  | tiny => "TINYINT" | small => "SMALLINT" | medium => "MEDIUMINT" | regular => "INT"
  | big => "BIGINT"

def least (w : IntWidth) (unsigned : Bool) : Int :=
  if unsigned then 0 else -(Nat.pow 2 (w.bits - 1))

def greatest (w : IntWidth) (unsigned : Bool) : Int :=
  if unsigned then Nat.pow 2 w.bits - 1 else Nat.pow 2 (w.bits - 1) - 1

end IntWidth

namespace Size

def pre : Size → String
  | tiny => "TINY" | regular => "" | medium => "MEDIUM" | long => "LONG"

end Size

namespace ColumnType

def boolean : ColumnType := .integer .tiny false

def longText : ColumnType := .text .long

/-- The upper-case name of the type, as a client reads it. -/
def wireName : ColumnType → String
  | integer w u => (if u then "UNSIGNED " else "") ++ w.name
  | double => "DOUBLE"
  | float => "FLOAT"
  | decimal .. => "DECIMAL"
  | varchar _ => "VARCHAR"
  | char _ => "CHAR"
  | text _ => "TEXT"
  | varbinary _ => "VARBINARY"
  | binary _ => "BINARY"
  | blob _ => "BLOB"
  | year => "YEAR"
  | date => "DATE"
  | datetime _ => "DATETIME"
  | timestamp _ => "TIMESTAMP"
  | json => "JSON"
  | enumeration _ => "ENUM"
  | bit _ => "BIT"
  | null => "NULL"

/-- The lower-case name of the type in `information_schema.COLUMNS`. -/
def dataType : ColumnType → String
  | integer w _ => w.name.lowerCase
  | text s => s.pre.lowerCase ++ "text"
  | blob s => s.pre.lowerCase ++ "blob"
  | t => t.wireName.lowerCase

/-- The full name of the type, as `information_schema.COLUMNS.COLUMN_TYPE` shows it. -/
def columnType : ColumnType → String
  | integer w u => w.name.lowerCase ++ (if u then " unsigned" else "")
  | decimal p s => "decimal(" ++ toString p ++ "," ++ toString s ++ ")"
  | varchar n => "varchar(" ++ toString n ++ ")"
  | char n => "char(" ++ toString n ++ ")"
  | varbinary n => "varbinary(" ++ toString n ++ ")"
  | binary n => "binary(" ++ toString n ++ ")"
  | bit n => "bit(" ++ toString n ++ ")"
  | enumeration ms => "enum(" ++ ",".intercalate (ms.map fun m => "'" ++ m ++ "'") ++ ")"
  | t => t.dataType

/-- Whether values of the type are instants or dates. -/
def isTemporal : ColumnType → Bool
  | date | datetime _ | timestamp _ => true
  | _ => false

/-- Whether values of the type are byte strings. -/
def isBinary : ColumnType → Bool
  | varbinary _ | binary _ | blob _ => true
  | _ => false

/-- Whether values of the type are exact decimals. -/
def isDecimal : ColumnType → Bool
  | decimal .. => true
  | _ => false

/-- Whether values of the type are floating point numbers. -/
def isFloating : ColumnType → Bool
  | double | float => true
  | _ => false

/-- Whether the type is a signed integer type. -/
def isSigned : ColumnType → Bool
  | integer _ u => !u
  | _ => false

/-- Whether the type is an unsigned integer type. -/
def isUnsigned : ColumnType → Bool
  | integer _ u => u
  | _ => false

/-- Whether values of the type are numbers: integers, decimals, floating point numbers, bit
fields and years. -/
def isNumeric : ColumnType → Bool
  | integer .. | double | float | decimal .. | bit _ | year => true
  | _ => false

/-- Whether values of the type are character strings. -/
def isCharacter : ColumnType → Bool
  | varchar _ | char _ | text _ | enumeration _ => true
  | _ => false

end ColumnType

end RowGate.Relational
