import StructGen.Value
/-!
# Schemas

A model is known by its table: the columns, in order, and the associations to other models. A link
is an association whose target is known to be emitted, with the shape its field takes.
-/
namespace StructGen

/-- What an association declares: which table holds the foreign key, and how many rows answer. -/
inductive AssociationKind
  | belongsTo
  | hasOne
  | hasMany
  | manyToMany
deriving DecidableEq, Repr, Inhabited

namespace AssociationKind

/-- The kinds in order. -/
def all : List AssociationKind :=
  [belongsTo, hasOne, hasMany, manyToMany]

/-- The name a kind is declared with. -/
def name : AssociationKind → String
  | belongsTo => "belongs_to"
  | hasOne => "has_one"
  | hasMany => "has_many"
  | manyToMany => "has_and_belongs_to_many"

/-- The association yields a collection. -/
def isCollection : AssociationKind → Bool
  | belongsTo | hasOne => false
  | hasMany | manyToMany => true

end AssociationKind

/-- Whether a field holds one related value or a collection. -/
inductive Cardinality
  | single
  | many
deriving DecidableEq, Repr, Inhabited

namespace Cardinality

/-- Both cardinalities. -/
def all : List Cardinality :=
  [single, many]

/-- The name of a cardinality. -/
def name : Cardinality → String
  | single => "single"
  | many => "many"

end Cardinality

/-- A column of a table. -/
structure Column where
  name : String
  sourceType : String
  nullable : Bool := false
  hasDefault : Bool := false
  isPrimaryKey : Bool := false
  /-- The default, where it is a value known without running anything. -/
  defaultValue : Value := .null
  length : Option Int := none
  unique : Bool := false
deriving Repr, Inhabited

/-- A declared association. -/
structure Association where
  name : String
  kind : AssociationKind
  target : String
  foreignKey : String
  /-- The table between two models; only `manyToMany` has one. -/
  joinTable : Option String := none
deriving DecidableEq, Repr, Inhabited

/-- The schema of one model. -/
structure Model where
  name : String
  tableName : String
  columns : List Column := []
  associations : List Association := []
deriving Repr, Inhabited

/-- An association whose target is emitted in this run. -/
structure Link where
  association : Association
  targetStruct : String
  cardinality : Cardinality
  /-- The field is a pointer, not a value. -/
  byReference : Bool := false
deriving DecidableEq, Repr, Inhabited

namespace Model

/-- The key columns. -/
def keys (m : Model) : List Column :=
  m.columns.filter (·.isPrimaryKey)

/-- The primary key, if there is exactly one key column. -/
def primaryKey? (m : Model) : Option Column :=
  match m.keys with
  | [c] => some c
  | _ => none

/-- The first column of a name. -/
def column? (m : Model) (name : String) : Option Column :=
  m.columns.find? (·.name = name)

end Model

/-! ## Records as values -/

/-- A column as a dictionary. -/
def Column.toValue (c : Column) : Value :=
  .dict [
    ("name", .text c.name),
    ("source_type", .text c.sourceType),
    ("nullable", .bool c.nullable),
    ("has_default", .bool c.hasDefault),
    ("is_primary_key", .bool c.isPrimaryKey),
    ("default", c.defaultValue),
    ("length", (c.length.map Value.int).getD .null),
    ("unique", .bool c.unique)]

/-- An association as a dictionary. -/
def Association.toValue (a : Association) : Value :=
  .dict [
    ("name", .text a.name),
    ("kind", .text a.kind.name),
    ("target_model", .text a.target),
    ("foreign_key", .text a.foreignKey),
    ("join_table", .textOrNull a.joinTable)]

/-- A schema as a dictionary. -/
def Model.toValue (m : Model) : Value :=
  .dict [
    ("name", .text m.name),
    ("table_name", .text m.tableName),
    ("columns", .list (m.columns.map Column.toValue)),
    ("associations", .list (m.associations.map Association.toValue))]

/-- A link as a dictionary. -/
def Link.toValue (l : Link) : Value :=
  .dict [
    ("association", l.association.toValue),
    ("target_struct", .text l.targetStruct),
    ("cardinality", .text l.cardinality.name),
    ("by_reference", .bool l.byReference)]

end StructGen
