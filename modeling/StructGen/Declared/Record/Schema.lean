import StructGen.Catalog
import StructGen.ColumnType
import StructGen.Declared.Record.Model
/-!
# Schemas of record models

The columns of a model are its fields. A foreign key takes its type from the field it refers to and
gives its target an association back.
-/
namespace StructGen.Declared

/-- What the field classes of the field library are. -/
def libraryFields : List (String × ColumnType) :=
  ["BigAutoField", "BigIntegerField", "BitField", "IPField"].map (·, .bigint) ++
  ["AutoField", "IntegerField", "SmallIntegerField", "IdentityField"].map (·, .integer) ++
  ["TimestampField"].map (·, .timestamp) ++
  ["FloatField", "DoubleField"].map (·, .float) ++
  ["DecimalField"].map (·, .decimal) ++
  ["BooleanField"].map (·, .boolean) ++
  ["DateTimeField"].map (·, .datetime) ++
  ["DateField"].map (·, .date) ++
  ["TextField"].map (·, .text) ++
  ["CharField", "FixedCharField"].map (·, .string) ++
  ["BlobField", "BigBitField", "BinaryUUIDField"].map (·, .binary)

/-- The name of a field class in lower case, without `field` at its end. -/
def classStem (className : String) : String :=
  let name := (Text.lower className).toList
  let ending := "field".toList
  String.ofList
    (if ending.isSuffixOf name then name.take (name.length - ending.length) else name)

/-- The source type of a field that is not followed any further. -/
def RecordType.source : RecordType → String
  | .plain className isLibrary =>
    match if isLibrary then libraryFields.lookup className else none with
    | some t => t.name
    | none => classStem className
  | .reference .. => classStem "ForeignKeyField"

namespace RecordModels

/-- The field that a reference leads to: the one of a name, or the key. -/
def referred? (models : RecordModels) (target : Nat) (field : Option String) :
    Option RecordField :=
  models[target]?.bind fun m =>
    match field, m.key with
    | some name, _ => m.fields.find? (·.name = name)
    | none, .field f => some f
    | none, _ => none

/-- The source type of a field; a reference has that of the field it leads to. -/
def source (models : RecordModels) (f : RecordField) : String :=
  match f.type with
  | .plain .. => f.type.source
  | .reference target field _ =>
    match models.referred? target field with
    | some g => g.type.source
    | none => ""

/-- The name of the attribute that holds the length of a field. -/
def lengthName : String :=
  "max_length"

/-- The length of a field. A reference gives out the fields of its target as its own attributes, so
that a field with the name of the length takes its place, which is no length. -/
def length (models : RecordModels) (f : RecordField) : Except (List Issue) (Option Int) :=
  match f.type with
  | .plain .. => .ok f.maxLength
  | .reference target _ _ =>
    if models[target]?.any (·.fields.any (·.name = lengthName)) then
      .error [⟨[.field "length"], .intExpected⟩]
    else .ok none

/-- The schema of a field. -/
def column (models : RecordModels) (f : RecordField) : Except (List Issue) Column := do
  let length ← models.length f
  return {
    name := f.columnName
    sourceType := models.source f
    nullable := f.nullable && !f.primaryKey
    hasDefault := f.default.isSome
    isPrimaryKey := f.primaryKey
    defaultValue := (f.default.map (·.value)).getD .null
    length
    unique := f.unique }

/-- The name of the model at a position. -/
def nameAt (models : RecordModels) (i : Nat) : String :=
  (models[i]?.map (·.decl.name)).getD ""

/-- The associations of a model's own foreign keys. -/
def ownAssociations (models : RecordModels) (m : RecordModel) : List Association :=
  m.references.map fun r =>
    { name := r.1.name
      kind := .belongsTo
      target := models.nameAt r.2
      foreignKey := r.1.columnName }

/-- The associations of a model's many-to-many fields. -/
def joinAssociations (m : RecordModel) : List Association :=
  m.joins.map fun j =>
    { name := j.name
      kind := .manyToMany
      target := j.target
      foreignKey := j.column
      joinTable := some j.table }

/-- The association that a foreign key of a model gives its target, if it is wanted. -/
def backAssociation? (owner : RecordModel) (f : RecordField) : Option Association :=
  match f.type with
  | .reference _ _ backref =>
    if suppressed.contains backref then none
    else
      some {
        name := backref
        kind := if f.unique then .hasOne else .hasMany
        target := owner.decl.name
        foreignKey := f.columnName }
  | .plain .. => none

/-- The associations that the foreign keys to position `i` give. -/
def backAssociations (models : RecordModels) (i : Nat) : List Association :=
  models.flatMap fun owner =>
    (owner.references.filter (·.2 = i)).filterMap fun r => backAssociation? owner r.1

/-- The schema of the model at a position. -/
def schema (models : RecordModels) (i : Nat) (m : RecordModel) : Except Refusal Model :=
  match m.key with
  | .composite names =>
    .error (.fault (.unsupportedSchema m.decl.name
      ("composite primary key (" ++ String.intercalate ", " names ++ ")")))
  | .none => .error (.fault (.unsupportedSchema m.decl.name "no primary key column"))
  | .field _ =>
    match m.fields.mapM models.column with
    | .error issues => .error (.invalid issues)
    | .ok columns =>
      .ok {
        name := m.decl.name
        tableName := m.table
        columns
        associations :=
          models.ownAssociations m ++ joinAssociations m ++ models.backAssociations i }

/-- The catalog of the models; the root and the models named in `abstract` are abstract. -/
def catalog (models : RecordModels) (abstract : List String) : Catalog :=
  let positions := 0 :: abstract.filterMap models.find?
  Catalog.ofClasses (models.map (·.decl)) fun i =>
    if positions.contains i then none else models[i]?.map (models.schema i)

end RecordModels

end StructGen.Declared
