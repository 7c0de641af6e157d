import StructGen.Catalog
/-!
# Plain classes

Classes that give their schemas as they are. The first class is the root of the hierarchy.
-/
namespace StructGen.Declared

/-- A class of a plain hierarchy. -/
structure PlainClass where
  decl : ClassDecl
  isAbstract : Bool := false
  schema : Option Model := none
deriving Repr, Inhabited

/-- The schema of a class that gives none: a table with a key column. -/
def keyOnly (name : String) : Model where
  name
  tableName := underscore name
  columns := [{ name := "id", sourceType := "integer", isPrimaryKey := true }]

/-- The schema that a class declares, if it is concrete. -/
def PlainClass.declared? (k : PlainClass) : Option Model :=
  if k.isAbstract then none else some (k.schema.getD (keyOnly k.decl.name))

/-- The catalog of plain classes. -/
def PlainClass.catalog (classes : List PlainClass) : Catalog :=
  Catalog.ofClasses (classes.map (·.decl)) fun i =>
    (classes[i]?.bind (·.declared?)).map .ok

end StructGen.Declared
