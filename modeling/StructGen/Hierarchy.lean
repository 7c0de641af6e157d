import StructGen.Graph
/-!
# Hierarchies of classes

Classes are listed in the order in which they are declared and refer to their bases by position, so
that a base stands before the classes below it.
-/
namespace StructGen

/-- A class by its names and its base classes, which are positions in the list it stands in. -/
structure ClassDecl where
  name : String
  moduleName : String := "app"
  qualifiedName : String
  bases : List Nat := []
deriving DecidableEq, Repr, Inhabited

/-- The name of a class with its module. -/
def ClassDecl.fullName (c : ClassDecl) : String :=
  c.moduleName ++ "." ++ c.qualifiedName

/-- The classes that have class `i` as a base, in order. -/
def subclasses (classes : List ClassDecl) (i : Nat) : List Nat :=
  (List.range classes.length).filter fun j => classes[j]?.any (·.bases.contains i)

/-- A class and all classes below it, depth first. -/
def walkSubclasses (classes : List ClassDecl) (root : Nat) : List Nat :=
  Graph.walk (List.range classes.length) (subclasses classes) [] [root]

/-- The position of the last class of a name. -/
def lastOfName? (classes : List ClassDecl) (name : String) : Option Nat :=
  (List.range classes.length).reverse.find? fun i => classes[i]?.any (·.name = name)

end StructGen
