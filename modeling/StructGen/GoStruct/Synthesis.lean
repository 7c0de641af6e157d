import StructGen.GoStruct
import StructGen.Naming
import StructGen.Schema
import StructGen.Setting
import StructGen.Text.Order
/-!
# From a model to a struct

The fields of a struct are the columns of its model in order, then its links in order. A model is
refused if it has not exactly one key column, if a column's type is not in the type table, or if two
of its sources give one field name; the method names of a struct are taken from the start. A default
or a length with an integer that cannot be written stops the synthesis too, but is no fault of the
model.
-/
namespace StructGen

open Number

/-- The methods that every struct has. -/
def structMethods : List String :=
  ["TableName"]

/-- Columns whose time the persistence layer sets on its own, by name. -/
def automaticTimes : List (String × String) :=
  [("created_at", "autoCreateTime"), ("created_on", "autoCreateTime"),
    ("updated_at", "autoUpdateTime"), ("updated_on", "autoUpdateTime")]

namespace Column

/-- A field may hold null if the column may and is no key. -/
def mayBeNull (c : Column) : Bool :=
  c.nullable && !c.isPrimaryKey

/-- The setting of a length that is set and not zero. -/
def lengthSettings (c : Column) : Except DigitFault (List String) :=
  match c.length with
  | some n => if n = 0 then .ok [] else (showInt n).map fun digits => ["size:" ++ digits]
  | none => .ok []

/-- The settings of a column whose type is `t`. -/
def settings (c : Column) (t : ColumnType) : Except DigitFault (List String) := do
  let ofType ← t.settings c.mayBeNull c.hasDefault c.defaultValue
  let size ← c.lengthSettings
  return ["column:" ++ c.name] ++
    (if c.isPrimaryKey then ["primaryKey"] else []) ++
    ofType ++
    (if c.unique && !c.isPrimaryKey then ["unique"] else []) ++
    size ++
    (match automaticTimes.lookup c.name with
      | some auto => if t.goType.package = some "time" then [auto] else []
      | none => [])

/-- The name of a column in JSON. -/
def jsonName (c : Column) : String :=
  if c.mayBeNull then c.name ++ ",omitempty" else c.name

/-- What is said of a column in parentheses. -/
def notes (c : Column) : List String :=
  c.sourceType ::
    if c.isPrimaryKey then ["primary key"] else if c.mayBeNull then ["nullable"] else []

/-- The field of a column whose type is `t` and that has these settings. -/
def fieldWith (c : Column) (t : ColumnType) (settings : List String) : GoField where
  name := goName c.name
  type := t.fieldType c.mayBeNull
  tag := structTag [("gorm", joinSettings settings), ("json", c.jsonName)]
  comment := goName c.name ++ " is the \"" ++ c.name ++ "\" column (" ++
    String.intercalate ", " c.notes ++ ")."

/-- The field of a column whose type is `t`. -/
def field (c : Column) (t : ColumnType) : Except DigitFault GoField :=
  (c.settings t).map (c.fieldWith t)

/-- The field of a column of a model. -/
def toField (c : Column) (model : String) : Except Obstacle GoField := do
  let t ← (ColumnType.find c.sourceType (some (model ++ "." ++ c.name))).mapError .fault
  (c.field t).mapError .digits

end Column

namespace Association

/-- The join table in text; an association without one says so by `None`. -/
def joinTableText (a : Association) : String :=
  a.joinTable.getD "None"

/-- The settings of an association. -/
def settings (a : Association) : List String :=
  match a.kind with
  | .manyToMany =>
    ["many2many:" ++ a.joinTableText, "joinForeignKey:" ++ goName a.foreignKey]
  | _ => ["foreignKey:" ++ goName a.foreignKey]

end Association

namespace Link

/-- The type of a link's field: a slice, a pointer or a plain value. -/
def fieldType (l : Link) : String :=
  match l.cardinality with
  | .many => "[]" ++ l.targetStruct
  | .single => if l.byReference then "*" ++ l.targetStruct else l.targetStruct

/-- The field of a link. -/
def field (l : Link) : GoField :=
  let a := l.association
  let through := match a.kind with
    | .manyToMany => " through " ++ a.joinTableText
    | _ => ""
  { name := goName a.name
    type := l.fieldType
    tag := structTag [("gorm", joinSettings a.settings), ("json", a.name ++ ",omitempty")]
    comment := goName a.name ++ " is the " ++ a.kind.name ++ " association to " ++
      l.targetStruct ++ through ++ "." }

end Link

/-- Field names that are taken, each with the source that took it. -/
abbrev TakenNames := List (String × String)

/-- The names that the methods of a struct take. -/
def methodNames : TakenNames :=
  structMethods.map fun name => (name, "method '" ++ name ++ "'")

/-- Takes a name for a source, or says which source has it. -/
def TakenNames.take (taken : TakenNames) (model name source : String) :
    Except Fault TakenNames :=
  match taken.lookup name with
  | some earlier => .error (.nameCollision model name [earlier, source])
  | none => .ok ((name, source) :: taken)

namespace Model

/-- The fields of columns, and the names taken after them. -/
def columnFields (model : String) : TakenNames → List Column →
    Except Obstacle (List GoField × TakenNames)
  | taken, [] => .ok ([], taken)
  | taken, c :: rest => do
    let f ← c.toField model
    let taken ← (taken.take model f.name ("column '" ++ c.name ++ "'")).mapError .fault
    let (fields, taken) ← columnFields model taken rest
    return (f :: fields, taken)

/-- The fields of links, and the names taken after them. -/
def linkFields (model : String) : TakenNames → List Link →
    Except Fault (List GoField × TakenNames)
  | taken, [] => .ok ([], taken)
  | taken, l :: rest => do
    let f := l.field
    let taken ← taken.take model f.name ("association '" ++ l.association.name ++ "'")
    let (fields, taken) ← linkFields model taken rest
    return (f :: fields, taken)

/-- Why the key columns of a model do not fit, if they do not. -/
def keyFault? (m : Model) : Option Fault :=
  match m.keys.map (·.name) with
  | [_] => none
  | [] => some (.unsupportedSchema m.name "no primary key column")
  | names =>
    some (.unsupportedSchema m.name
      ("composite primary key (" ++ String.intercalate ", " names ++ ")"))

/-- The packages that fields need: each once, in alphabetical order. -/
def importsOf (fields : List GoField) : List String :=
  Text.sorted (fields.filterMap fun f => requiredPackage? f.type).eraseDups

/-- The struct of a model with the given links. -/
def synthesize (m : Model) (links : List Link) : Except Obstacle GoStruct := do
  if let some fault := m.keyFault? then throw (.fault fault)
  let (columns, taken) ← columnFields m.name methodNames m.columns
  let (associations, _) ← (linkFields m.name taken links).mapError .fault
  let fields := columns ++ associations
  return {
    name := goName m.name
    tableName := m.tableName
    fields
    imports := importsOf fields }

end Model

end StructGen
