import StructGen.Catalog
import StructGen.Declared.Default
import StructGen.Declared.SqlType
import StructGen.GoStruct.Synthesis
/-!
# Mapped classes

Models declared as classes that are mapped to tables: each lists typed columns and relationships.
Classes between them that map no table are abstract.
-/
namespace StructGen.Declared

/-- A column as it is declared. -/
structure MappedColumn where
  name : String
  type : SqlType
  primaryKey : Bool := false
  nullable : Option Bool := none
  unique : Bool := false
  default : Option DeclaredDefault := none
  serverDefault : Option DeclaredDefault := none
  /-- The database numbers the rows in this column. -/
  identity : Bool := false
deriving Repr, Inhabited

namespace MappedColumn

/-- The default that counts: the column's own before the server's. -/
def effectiveDefault? (c : MappedColumn) : Option DeclaredDefault :=
  (c.default.bind (·.notNull?)).or c.serverDefault

/-- The column may hold null: unless it is declared, if it is neither a key nor numbered. -/
def mayBeNull (c : MappedColumn) : Bool :=
  c.nullable.getD (!c.primaryKey && !c.identity)

/-- The schema of a column. -/
def column (c : MappedColumn) : Column where
  name := c.name
  sourceType := c.type.source
  nullable := c.mayBeNull && !c.primaryKey
  hasDefault := c.effectiveDefault?.isSome
  isPrimaryKey := c.primaryKey
  defaultValue := (c.effectiveDefault?.map (·.value)).getD .null
  length := c.type.length?
  unique := c.unique

end MappedColumn

/-- The direction of a relationship. -/
inductive Direction
  /-- The foreign key is a column of this table. -/
  | manyToOne (localColumn : String)
  /-- The foreign key is a column of the target's table. -/
  | oneToMany (remoteColumn : String) (useList : Bool)
  /-- The foreign key is a column of a table between the two. -/
  | manyToMany (joinTable joinColumn : String)
deriving DecidableEq, Repr, Inhabited

/-- A relationship as it is declared. -/
structure Relationship where
  name : String
  target : String
  direction : Direction
deriving DecidableEq, Repr, Inhabited

/-- The association of a relationship. -/
def Relationship.association (r : Relationship) : Association :=
  match r.direction with
  | .manyToOne column =>
    { name := r.name, kind := .belongsTo, target := r.target, foreignKey := column }
  | .oneToMany column useList =>
    { name := r.name
      kind := if useList then .hasMany else .hasOne
      target := r.target
      foreignKey := column }
  | .manyToMany table column =>
    { name := r.name
      kind := .manyToMany
      target := r.target
      foreignKey := column
      joinTable := some table }

/-- What a class of the hierarchy is mapped to. -/
structure Mapping where
  table : String
  columns : List MappedColumn := []
  relationships : List Relationship := []
deriving Repr, Inhabited

/-- A class as it is declared: mapped to a table, or abstract. Its parent is a class that was
declared before it, or the root. -/
structure MappedClass where
  name : String
  moduleName : String := "app"
  qualifiedName : String
  parent : Option String := none
  mapping : Option Mapping := none
deriving Repr, Inhabited

/-- The schema of a mapping. -/
def Mapping.schema (mapping : Mapping) (name : String) : Except Fault Model :=
  let m : Model :=
    { name
      tableName := mapping.table
      columns := mapping.columns.map (·.column)
      associations := mapping.relationships.map (·.association) }
  match m.keyFault? with
  | some fault => .error fault
  | none => .ok m

/-- The classes with their bases as positions; the root is the first. -/
def MappedClass.decls (root : String) (classes : List MappedClass) : List ClassDecl :=
  classes.foldl
    (fun decls c =>
      let base := (c.parent.bind (lastOfName? decls)).getD 0
      decls ++ [{
        name := c.name
        moduleName := c.moduleName
        qualifiedName := c.qualifiedName
        bases := [base] }])
    [{ name := root, qualifiedName := root }]

/-- The mapping of the class at a position behind the root. -/
def MappedClass.mappingAt? (classes : List MappedClass) : Nat → Option (String × Mapping)
  | 0 => none
  | i + 1 => classes[i]?.bind fun c => c.mapping.map fun m => (c.name, m)

/-- The catalog of mapped classes. -/
def MappedClass.catalog (root : String) (classes : List MappedClass) : Catalog :=
  Catalog.ofClasses (decls root classes) fun i =>
    (mappingAt? classes i).map fun (name, mapping) => (mapping.schema name).mapError .fault

end StructGen.Declared
