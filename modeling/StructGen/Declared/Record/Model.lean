import StructGen.Declared.Record.Decl
import StructGen.Hierarchy
import StructGen.Text.Casing
/-!
# Record models

A declared record becomes a model with a key and columns. A model without a key of its own has the
key of its parent, and copies of its parent's other fields. Many-to-many fields are added when all
models are there, each with a reverse field on its target.
-/
namespace StructGen.Declared

/-- The type of a field of a model. -/
inductive RecordType
  | plain (className : String) (isLibrary : Bool)
  /-- A foreign key to a field of the model at a position; to its key, if no field is named. -/
  | reference (target : Nat) (field : Option String) (backref : String)
deriving DecidableEq, Repr, Inhabited

/-- A field of a model. -/
structure RecordField where
  name : String
  type : RecordType
  columnName : String
  nullable : Bool := false
  primaryKey : Bool := false
  unique : Bool := false
  maxLength : Option Int := none
  default : Option DeclaredDefault := none
deriving Repr, Inhabited

/-- The key of a model. -/
inductive RecordKey
  | field (f : RecordField)
  | composite (names : List String)
  | none
deriving Repr, Inhabited

/-- A many-to-many field of a model: its target, and the table and column that lead there. -/
structure JoinField where
  name : String
  target : String
  table : String
  column : String
deriving DecidableEq, Repr, Inhabited

/-- A model. -/
structure RecordModel where
  decl : ClassDecl
  table : String
  key : RecordKey
  /-- The fields that have a column: the key, inherited fields, and the model's own. -/
  fields : List RecordField := []
  joins : List JoinField := []
deriving Repr, Inhabited

namespace RecordModel

/-- The foreign keys of a model, each with the position of its target. -/
def references (m : RecordModel) : List (RecordField × Nat) :=
  m.fields.filterMap fun f =>
    match f.type with
    | .reference target _ _ => some (f, target)
    | .plain .. => none

end RecordModel

/-- The models in order; the first is the abstract root of all. -/
abbrev RecordModels := List RecordModel

/-! ## Building the models -/

/-- The column of a foreign key: its name with `_id` at the end. -/
def referenceColumn (name : String) : String :=
  if "_id".toList.isSuffixOf name.toList then name else name ++ "_id"

/-- The longest text of a field that declares no length. -/
def defaultMaxLength? : FieldType → Option Int
  | .library "CharField" | .library "FixedCharField" => some 255
  | _ => none

/-- The default of a field that declares none. -/
def classDefault? : FieldType → Option DeclaredDefault
  | .library "BitField" => some (.scalar (.int 0))
  | .library "BigBitField" | .library "TimestampField" => some .computed
  | _ => none

/-- A field of the model at position `self`, where `find` gives the positions of its targets. -/
def FieldDecl.field (f : FieldDecl) (self : Nat) (find : String → Option Nat) (owner : String) :
    RecordField where
  name := f.name
  type := match f.type with
    | .library c => .plain c true
    | .custom c => .plain c false
    | .reference target field backref =>
      let position := match target with
        | some t => (find t).getD self
        | none => self
      .reference position field (if backref = "" then Text.lower owner ++ "_set" else backref)
  columnName := match f.columnName, f.type with
    | some c, _ => c
    | none, .reference .. => referenceColumn f.name
    | none, _ => f.name
  nullable := f.nullable
  primaryKey := f.primaryKey
  unique := f.unique
  maxLength := f.maxLength.or (defaultMaxLength? f.type)
  default := (f.default.or (classDefault? f.type)).bind (·.notNull?)

/-- The key that a model has from its declaration, its own fields and its parent. -/
def RecordDecl.keyOf (d : RecordDecl) (own : List RecordField) (parent : RecordKey) : RecordKey :=
  match d.key, own.find? (·.primaryKey) with
  | .composite names, _ => .composite names
  | .none, _ => .none
  | .field, some f => .field f
  | .field, none => parent

/-- The fields of a model with a key: the key's own field first, unless another has its name. -/
def RecordKey.withFields (key : RecordKey) (others : List RecordField) : List RecordField :=
  match key with
  | .field f => if others.any (·.name = f.name) then others else f :: others
  | .composite _ | .none => others

/-- The field of a numbered key. -/
def numberedKey : RecordField where
  name := "id"
  type := .plain "AutoField" true
  columnName := "id"
  primaryKey := true

/-- The root of all models, which has a numbered key. -/
def rootRecord : RecordModel where
  decl := { name := "BaseModel", qualifiedName := "BaseModel" }
  table := "basemodel"
  key := .field numberedKey
  fields := [numberedKey]

/-- The position of the last model of a name. -/
def RecordModels.find? (models : RecordModels) (name : String) : Option Nat :=
  lastOfName? (models.map (·.decl)) name

/-- Adds a declared model. -/
def RecordModels.add (models : RecordModels) (d : RecordDecl) : RecordModels :=
  let base := (d.parent.bind models.find?).getD 0
  let parent := models[base]?.getD rootRecord
  let own := d.fields.map fun f => f.field models.length models.find? d.name
  let names := own.map (·.name)
  let inherited := parent.fields.filter fun f => !f.primaryKey && !names.contains f.name
  let key := d.keyOf own parent.key
  models ++ [{
    decl := {
      name := d.name
      moduleName := d.moduleName
      qualifiedName := d.qualifiedName
      bases := [base] }
    table := d.table
    key
    fields := key.withFields (inherited ++ own.filter fun f => !f.primaryKey) }]

/-- Changes the model at a position. -/
def RecordModels.change (models : RecordModels) (i : Nat) (f : RecordModel → RecordModel) :
    RecordModels :=
  models.modify i f

/-- Adds a many-to-many field to a model, in place of a field that has its name. -/
def RecordModel.join (m : RecordModel) (j : JoinField) : RecordModel :=
  { m with
    fields := m.fields.filter (·.name != j.name)
    joins := m.joins.filter (·.name != j.name) ++ [j] }

/-- The table of a join, and its columns that refer to the model and to the target. -/
structure JoinTable where
  table : String
  modelColumn : String
  targetColumn : String
deriving DecidableEq, Repr, Inhabited

/-- The column of the first foreign key of a model that refers to position `i`. -/
def RecordModel.columnTo? (m : RecordModel) (i : Nat) : Option String :=
  (m.references.find? (·.2 = i)).map (·.1.columnName)

/-- The column of a join that refers to a model, where the join model has none. -/
def joinColumn (m : RecordModel) : String :=
  Text.lower m.decl.name ++ "_id"

/-- The join between two models: that of the model `through`, or an automatic one. -/
def joinTable (model target : RecordModel) (i j : Nat) : Option RecordModel → JoinTable
  | some through =>
    { table := through.table
      modelColumn := (through.columnTo? i).getD (joinColumn model)
      targetColumn := (through.columnTo? j).getD (joinColumn target) }
  | none =>
    { table := model.table ++ "_" ++ target.table ++ "_through"
      modelColumn := referenceColumn (Text.lower model.decl.name)
      targetColumn := referenceColumn (Text.lower target.decl.name) }

/-- The names of reverse fields and associations that are not wanted. -/
def suppressed : List String :=
  ["+", "!"]

/-- The name of a reverse field: plural of the model's, if none is given. -/
def reverseName (model : RecordModel) : Option String → String
  | some "" | none => Text.lower model.decl.name ++ "s"
  | some name => name

/-- Adds a declared many-to-many field, behind its reverse field. -/
def RecordModels.addJoin (models : RecordModels) (d : JoinDecl) : RecordModels :=
  match models.find? d.model, models.find? d.target with
  | some i, some j =>
    let model := models[i]?.getD rootRecord
    let target := models[j]?.getD rootRecord
    let through := (d.through.bind models.find?).bind fun k => models[k]?
    let table := joinTable model target i j through
    let back := reverseName model d.backref
    let reversed :=
      if suppressed.contains back then models
      else
        models.change j (·.join {
          name := back
          target := model.decl.name
          table := table.table
          column := table.targetColumn })
    reversed.change i (·.join {
      name := d.name
      target := target.decl.name
      table := table.table
      column := table.modelColumn })
  | _, _ => models

/-- The models of declarations. -/
def RecordModels.ofDecls (decls : List RecordDecl) (joins : List JoinDecl) : RecordModels :=
  joins.foldl RecordModels.addJoin (decls.foldl RecordModels.add [rootRecord])

end StructGen.Declared
