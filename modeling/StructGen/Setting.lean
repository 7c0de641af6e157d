import StructGen.ColumnType
/-!
# Settings of a field

The `gorm` key of a struct tag holds settings separated by semicolons. A semicolon inside a default
is escaped by a backslash, so that it ends no setting.
-/
namespace StructGen

open Number

/-- Writes every quotation mark twice. -/
def doubleMarks (s : List Char) : List Char :=
  s.flatMap fun c => if c = '\'' then ['\'', '\''] else [c]

/-- A default as a literal, its integers as long as they are: booleans and numbers bare, all else in
single quotes. -/
def defaultText : Value → String
  | .bool true => "true"
  | .bool false => "false"
  | .int n => toString n
  | .float x => x.text
  | v => String.ofList ('\'' :: doubleMarks v.displayText.toList ++ ['\''])

/-- A default as a literal. -/
def defaultLiteral (d : Value) : Except DigitFault String :=
  d.shown defaultText

/-- A text with its semicolons escaped. -/
def escapeSetting (s : String) : String :=
  String.ofList (s.toList.flatMap fun c => if c = ';' then ['\\', ';'] else [c])

/-- Settings in one text. -/
def joinSettings (settings : List String) : String :=
  String.intercalate ";" settings

namespace ColumnType

/-- The setting of a default; there is none for a default that is not known. -/
def defaultSettings (hasDefault : Bool) (d : Value) : Except DigitFault (List String) :=
  match hasDefault, d with
  | true, .null => .ok []
  | true, d => (defaultLiteral d).map fun literal => ["default:" ++ escapeSetting literal]
  | false, _ => .ok []

/-- The settings that follow from a column's type, its nullability and its default. -/
def settings (t : ColumnType) (nullable hasDefault : Bool) (d : Value) :
    Except DigitFault (List String) := do
  let default ← defaultSettings hasDefault d
  return ["type:" ++ t.goType.sqlType] ++ (if nullable then [] else ["not null"]) ++ default

/-- The type of a field. -/
def fieldType (t : ColumnType) (nullable : Bool) : String :=
  if nullable then t.goType.optional else t.goType.name

end ColumnType

/-- What stops the way from a column or a model to its text: a fault, or an integer that cannot be
written. The latter harms not one model only but the run. -/
inductive Obstacle
  | fault (fault : Fault)
  | digits (fault : DigitFault)
deriving Repr, Inhabited

/-- The Go type of a column and the settings that its type gives it. -/
def mapColumnType (sourceType : String) (nullable hasDefault : Bool) (d : Value)
    (column : Option String) : Except Obstacle (String × String) := do
  let t ← (ColumnType.find sourceType column).mapError .fault
  let settings ← (t.settings nullable hasDefault d).mapError .digits
  return (t.fieldType nullable, joinSettings settings)

end StructGen
