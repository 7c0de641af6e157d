import StructGen.Hierarchy
import StructGen.Fault
import StructGen.Naming
import StructGen.Schema
import StructGen.Text.Order
import StructGen.Validation
/-!
# Catalogs

A catalog holds the classes of a model hierarchy, in the order of a walk from its root. A requested
identifier is looked up among their names, and the concrete ones can be discovered.
-/
namespace StructGen

/-- Why there is no schema: a fault of the model, or a schema with invalid parts. -/
inductive Refusal
  | fault (f : Fault)
  | invalid (issues : List Issue)
deriving Repr, Inhabited

/-- A class of a hierarchy. -/
structure CatalogClass where
  /-- The position of the class among all that are declared. -/
  position : Nat
  decl : ClassDecl
  /-- The schema that the class declares; an abstract class declares none. -/
  schema? : Option (Except Refusal Model)
deriving Inhabited

namespace CatalogClass

/-- The class stands for no table. -/
def isAbstract (k : CatalogClass) : Bool :=
  k.schema?.isNone

/-- The fault of a class that stands for no table. -/
def abstractFault (k : CatalogClass) : Fault :=
  .notConcrete k.decl.name "abstract base"

/-- The schema of a class. -/
def schema (k : CatalogClass) : Except Refusal Model :=
  k.schema?.getD (.error (.fault k.abstractFault))

/-- The class if it is concrete. -/
def concrete (k : CatalogClass) : Except Fault CatalogClass :=
  if k.isAbstract then .error k.abstractFault else .ok k

/-- The class is found by a text: its name, its qualified name or its full name. -/
def isNamed (k : CatalogClass) (wanted : String) : Bool :=
  wanted = k.decl.name || wanted = k.decl.qualifiedName || wanted = k.decl.fullName

end CatalogClass

/-- The classes of a hierarchy in order. -/
structure Catalog where
  classes : List CatalogClass := []

/-- The texts a class is found by when an identifier is requested. -/
def wantedNames (identifier : String) : List String :=
  [Text.trim identifier, camelize identifier]

namespace Catalog

/-- The catalog of the classes below the first one; `schema?` gives what the class at a position
declares. -/
def ofClasses (classes : List ClassDecl) (schema? : Nat → Option (Except Refusal Model)) :
    Catalog where
  classes := (walkSubclasses classes 0).filterMap fun i =>
    (classes[i]?).map fun decl => { position := i, decl, schema? := schema? i }

/-- The names of all classes in order. -/
def names (c : Catalog) : List String :=
  c.classes.map (·.decl.name)

/-- The names of the concrete classes, sorted. -/
def discover (c : Catalog) : List String :=
  Text.sorted ((c.classes.filter fun k => !k.isAbstract).map (·.decl.name))

/-- The classes that an identifier names. -/
def lookup (c : Catalog) (identifier : String) : List CatalogClass :=
  c.classes.filter fun k => (wantedNames identifier).any k.isNamed

/-- The concrete class that an identifier names. -/
def select (c : Catalog) (identifier : String) : Except Fault CatalogClass :=
  match c.lookup identifier with
  | [k] => k.concrete
  | [] => .error (.lookup identifier c.discover false)
  | several => .error (.lookup identifier (several.map (·.decl.fullName)) true)

/-- The fault of a class that is not in the hierarchy. -/
def outside (name : String) : Fault :=
  .notConcrete name "not part of the model hierarchy"

/-- The concrete class at a position among all that are declared; `name` is the name it has. -/
def selectAt (c : Catalog) (position : Nat) (name : String) : Except Fault CatalogClass :=
  match c.classes.find? (·.position = position) with
  | some k => k.concrete
  | none => .error (outside name)

/-- The schema of the class, if one was selected. -/
def schemaOf (k : Except Fault CatalogClass) : Except Refusal Model :=
  match k with
  | .ok k => k.schema
  | .error fault => .error (.fault fault)

end Catalog

end StructGen
