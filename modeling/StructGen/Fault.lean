import StructGen.Value.Text
/-!
# Faults

Everything that can go wrong with one model, or with the connection, is a `Fault`. A fault has a
code for programs, a message for people and the details the message was made from.
-/
namespace StructGen

/-- Why a model or the connection could not be converted. -/
inductive Fault
  /-- The identifier names no class, or several. -/
  | lookup (model : String) (known : List String) (ambiguous : Bool)
  /-- The identifier names a class that stands for no table. -/
  | notConcrete (model reason : String)
  /-- A column's type is not in the type table. -/
  | unsupportedType (sourceType : String) (column model : Option String)
  /-- The shape of the model has no counterpart. -/
  | unsupportedSchema (model reason : String)
  /-- Several sources give one name. -/
  | nameCollision (model field : String) (sources : List String)
  /-- No dialect is known for the database driver. -/
  | unsupportedDriver (driver : String) (known : List String)
  /-- The environment is not configured. -/
  | environmentNotFound (environment : String) (available : List String)
  /-- Any other fault, by its message and details. -/
  | other (message : String) (details : List (String × Value))
deriving Repr, Inhabited

namespace Fault

/-- How many known models a message names. -/
def shownModels : Nat := 10

/-- The models that an identifier could have meant, as the end of a message. -/
def knownText : List String → String
  | [] => ""
  | known =>
    let shown := String.intercalate ", " (known.take shownModels)
    let more :=
      if shownModels < known.length then
        " (and " ++ toString (known.length - shownModels) ++ " more)"
      else ""
    "; known models: " ++ shown ++ more

/-- The place of a column in a message. An empty name is no name. -/
def columnPlace (column model : Option String) : String :=
  let place := match column with
    | some c => if c = "" then "<unknown>" else c
    | none => "<unknown>"
  match model with
  | some m => if m = "" then place else m ++ "." ++ place
  | none => place

/-- The code of a fault. -/
def code : Fault → String
  | lookup .. => "MODEL_LOOKUP_FAILED"
  | notConcrete .. => "MODEL_NOT_CONCRETE"
  | unsupportedType .. => "UNSUPPORTED_TYPE"
  | unsupportedSchema .. => "UNSUPPORTED_SCHEMA"
  | nameCollision .. => "NAME_COLLISION"
  | unsupportedDriver .. => "UNSUPPORTED_DRIVER"
  | environmentNotFound .. => "ENVIRONMENT_NOT_FOUND"
  | other .. => "ORMGO_ERROR"

/-- The message of a fault. -/
def message : Fault → String
  | lookup model known ambiguous =>
    "Model '" ++ model ++ (if ambiguous then "' is ambiguous" else "' could not be found") ++
      knownText known
  | notConcrete model reason =>
    "Model '" ++ model ++ "' is not a concrete mapped model (" ++ reason ++ ")"
  | unsupportedType sourceType column model =>
    "Unsupported column type '" ++ sourceType ++ "' for column '" ++ columnPlace column model ++ "'"
  | unsupportedSchema model reason =>
    "Model '" ++ model ++ "' has an unsupported schema: " ++ reason
  | nameCollision model field sources =>
    "Field name '" ++ field ++ "' on model '" ++ model ++
      "' is produced by more than one source: " ++ String.intercalate ", " sources
  | unsupportedDriver driver known =>
    "Unsupported database driver '" ++ driver ++ "'" ++
      (if known.isEmpty then ""
        else "; supported drivers: " ++ String.intercalate ", " known)
  | environmentNotFound environment available =>
    "Invalid env argument \"" ++ environment ++ "\": not in the available list " ++
      (Value.texts available).literalText
  | other message _ => message

/-- The details of a fault. -/
def details : Fault → List (String × Value)
  | lookup model known _ => [("model", .text model), ("known_models", .texts known)]
  | notConcrete model reason => [("model", .text model), ("reason", .text reason)]
  | unsupportedType sourceType column model =>
    [("source_type", .text sourceType), ("column", .textOrNull column),
      ("model", .textOrNull model)]
  | unsupportedSchema model reason => [("model", .text model), ("reason", .text reason)]
  | nameCollision model field sources =>
    [("model", .text model), ("field_name", .text field), ("sources", .texts sources)]
  | unsupportedDriver driver known => [("driver_name", .text driver), ("known", .texts known)]
  | environmentNotFound environment available =>
    [("env_name", .text environment), ("available", .texts available)]
  | other _ details => details

end Fault

end StructGen
