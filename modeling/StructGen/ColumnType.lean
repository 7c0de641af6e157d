import StructGen.Fault
import StructGen.Text.Blank
import StructGen.Text.Casing
/-!
# The type table

The closed set of column types, each with the Go type of its field and the type name in the
database. A type outside the table is refused and never guessed.
-/
namespace StructGen

/-- The column types. -/
inductive ColumnType
  | string
  | text
  | integer
  | bigint
  | float
  | decimal
  | boolean
  | date
  | datetime
  | timestamp
  | binary
deriving DecidableEq, Repr, Inhabited

/-- A Go type that stands for a column type. -/
structure GoType where
  name : String
  sqlType : String
  /-- The import path the type needs. -/
  package : Option String := none
  /-- The type has a nil value of its own. -/
  nilable : Bool := false
deriving DecidableEq, Repr, Inhabited

/-- The Go type of a column that may be null. -/
def GoType.optional (t : GoType) : String :=
  if t.nilable then t.name else "*" ++ t.name

namespace ColumnType

/-- The types in table order. -/
def all : List ColumnType :=
  [string, text, integer, bigint, float, decimal, boolean, date, datetime, timestamp, binary]

/-- The name of a type. -/
def name : ColumnType → String
  | string => "string"
  | text => "text"
  | integer => "integer"
  | bigint => "bigint"
  | float => "float"
  | decimal => "decimal"
  | boolean => "boolean"
  | date => "date"
  | datetime => "datetime"
  | timestamp => "timestamp"
  | binary => "binary"

/-- The Go type of a column type. -/
def goType : ColumnType → GoType
  | string => { name := "string", sqlType := "varchar(255)" }
  | text => { name := "string", sqlType := "text" }
  | integer => { name := "int", sqlType := "integer" }
  | bigint => { name := "int64", sqlType := "bigint" }
  | float => { name := "float64", sqlType := "float" }
  | decimal => { name := "float64", sqlType := "decimal" }
  | boolean => { name := "bool", sqlType := "boolean" }
  | date => { name := "time.Time", sqlType := "date", package := some "time" }
  | datetime => { name := "time.Time", sqlType := "timestamp", package := some "time" }
  | timestamp => { name := "time.Time", sqlType := "timestamp", package := some "time" }
  | binary => { name := "[]byte", sqlType := "bytes", nilable := true }

/-- The type of a name, whatever its case and the white space around it. -/
def ofName? (source : String) : Option ColumnType :=
  let wanted := Text.lower (Text.trim source)
  all.find? (·.name = wanted)

/-- The type of a name; `column` is where the name was found. -/
def find (source : String) (column : Option String := none) : Except Fault ColumnType :=
  match ofName? source with
  | some t => .ok t
  | none => .error (.unsupportedType source column none)

end ColumnType

/-- The import path a field's type needs: that of the type under its pointers and brackets. -/
def requiredPackage? (fieldType : String) : Option String :=
  let bare := String.ofList (fieldType.toList.dropWhile fun c => c == '*' || c == '[' || c == ']')
  ColumnType.all.findSome? fun t =>
    if t.goType.name = bare then t.goType.package else none

end StructGen
