import StructGen.Naming
import StructGen.Value
/-!
# Files of a run

The files that a run makes, and the paths they go to.
-/
namespace StructGen

/-- A file of a run; the connection file has no model. -/
structure GeneratedFile where
  path : String
  content : String
  model : Option String := none
deriving DecidableEq, Repr, Inhabited

/-- A file as a dictionary. -/
def GeneratedFile.toValue (f : GeneratedFile) : Value :=
  .dict [("path", .text f.path), ("content", .text f.content), ("model", .textOrNull f.model)]

/-- Where files go. -/
structure Layout where
  directory : String := "models"
  stem : String := "gor_"
  connectionFile : String := "db.go"
deriving DecidableEq, Repr, Inhabited

/-- The path of a model's file. -/
def Layout.modelPath (l : Layout) (model : String) : String :=
  l.directory ++ "/" ++ l.stem ++ underscore model ++ ".go"

/-- The path of the connection file. -/
def Layout.connectionPath (l : Layout) : String :=
  l.directory ++ "/" ++ l.connectionFile

end StructGen
