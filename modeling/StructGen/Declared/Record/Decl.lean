import StructGen.Declared.Default
/-!
# Declared records

Models declared by their fields, of which some are foreign keys, and the many-to-many fields that
are added to them.
-/
namespace StructGen.Declared

/-- The type of a field as it is declared. -/
inductive FieldType
  /-- A field class of the field library. -/
  | library (className : String)
  /-- A field class of its own. -/
  | custom (className : String)
  /-- A foreign key: to the model of a name, or to its own model; to a field, or to the key. -/
  | reference (target : Option String) (field : Option String) (backref : String)
deriving DecidableEq, Repr, Inhabited

/-- A field as it is declared. -/
structure FieldDecl where
  name : String
  type : FieldType
  columnName : Option String := none
  nullable : Bool := false
  primaryKey : Bool := false
  unique : Bool := false
  maxLength : Option Int := none
  default : Option DeclaredDefault := none
deriving Repr, Inhabited

/-- The key of a model. -/
inductive KeyDecl
  /-- The field that is marked, or else the key of the parent. -/
  | field
  /-- Several fields together. -/
  | composite (names : List String)
  /-- No key. -/
  | none
deriving DecidableEq, Repr, Inhabited

/-- A model as it is declared. -/
structure RecordDecl where
  name : String
  table : String
  fields : List FieldDecl := []
  parent : Option String := none
  moduleName : String := "app"
  qualifiedName : String
  key : KeyDecl := .field
deriving Repr, Inhabited

/-- A many-to-many field as it is declared. -/
structure JoinDecl where
  model : String
  name : String
  target : String
  backref : Option String := none
  through : Option String := none
deriving DecidableEq, Repr, Inhabited

end StructGen.Declared
