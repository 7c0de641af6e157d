import StructGen.Fault
/-!
# Diagnostics

What a run says about its models: one outcome for each, and warnings about associations that were
left out.
-/
namespace StructGen

/-- The kinds of diagnostics. -/
inductive DiagnosticKind
  | converted
  | failed
  | missingTarget
  | duplicate
deriving DecidableEq, Repr, Inhabited

namespace DiagnosticKind

/-- The kinds in order. -/
def all : List DiagnosticKind :=
  [converted, failed, missingTarget, duplicate]

/-- The name of a kind. -/
def name : DiagnosticKind → String
  | converted => "converted"
  | failed => "failed"
  | missingTarget => "missing_association_target"
  | duplicate => "duplicate_association"

end DiagnosticKind

/-- An outcome or a warning. -/
structure Diagnostic where
  model : String
  kind : DiagnosticKind
  message : String
  code : Option String := none
  /-- What a warning is about, as `Model.association`. -/
  subject : Option String := none
deriving DecidableEq, Repr, Inhabited

namespace Diagnostic

/-- The model was not converted. -/
def isFailure (d : Diagnostic) : Bool :=
  d.kind == .failed

/-- An association was left out. -/
def isWarning (d : Diagnostic) : Bool :=
  d.kind == .missingTarget || d.kind == .duplicate

/-- What a warning names: its subject, or its model if it has none. -/
def about (d : Diagnostic) : String :=
  match d.subject with
  | some s => if s = "" then d.model else s
  | none => d.model

/-- A diagnostic as it is written to the diagnostic stream. -/
def line (d : Diagnostic) : String :=
  match d.kind with
  | .converted => "Converted the model [" ++ d.model ++ "]"
  | .failed => "Failed to convert the model [" ++ d.model ++ "]: " ++ d.message
  | .missingTarget => "MissingAssociationTarget [" ++ d.about ++ "]: " ++ d.message
  | .duplicate => "DuplicateAssociation [" ++ d.about ++ "]: " ++ d.message

/-- The outcome of a model that was converted. -/
def ofConverted (model : String) : Diagnostic :=
  { model, kind := .converted, message := "converted" }

/-- The outcome of a model that failed. -/
def ofFault (model : String) (fault : Fault) : Diagnostic :=
  { model, kind := .failed, message := fault.message, code := some fault.code }

/-- A diagnostic as a dictionary. -/
def toValue (d : Diagnostic) : Value :=
  .dict [
    ("model", .text d.model),
    ("kind", .text d.kind.name),
    ("message", .text d.message),
    ("code", .textOrNull d.code),
    ("subject", .textOrNull d.subject)]

end Diagnostic

end StructGen
