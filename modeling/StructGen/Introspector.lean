import StructGen.Catalog
import StructGen.Run
/-!
# Introspectors

An introspector is what a run needs of a store of schemas: the models it knows, and the schema that
an identifier stands for. A schema with invalid parts ends a run, and so does an integer that cannot
be written; any other fault harms its own model only.
-/
namespace StructGen

/-- A store of schemas: the models it knows, and the schema that an identifier stands for. -/
structure Introspector where
  discover : List String
  introspect : String → Except Refusal Model

/-- The introspector of a catalog. -/
def Catalog.introspector (c : Catalog) : Introspector where
  discover := c.discover
  introspect identifier := Catalog.schemaOf (c.select identifier)

/-- The introspector of schemas that are given by name. -/
def Introspector.ofSchemas (schemas : Keyed Model) : Introspector where
  discover := Text.sorted schemas.keys
  introspect identifier :=
    match schemas.get? identifier with
    | some m => .ok m
    | none => .error (.fault (.lookup identifier (Text.sorted schemas.keys) false))

/-- What is invalid about a schema. -/
def Refusal.issues? : Refusal → Option (List Issue)
  | fault _ => none
  | invalid issues => some issues

/-- The fault of the model of an identifier. -/
def Refusal.toFault (identifier : String) : Refusal → Fault
  | fault f => f
  | invalid _ => .unsupportedSchema identifier "the schema has invalid parts"

/-- Why a run ends without a result. -/
inductive RunFault
  | invalid (issues : List Issue)
  | digits (fault : Number.DigitFault)
deriving DecidableEq, Repr, Inhabited

namespace Introspector

/-- What is invalid about the first identifier whose schema has invalid parts. -/
def invalid? (i : Introspector) (identifiers : List String) : Option (List Issue) :=
  identifiers.findSome? fun identifier =>
    match i.introspect identifier with
    | .error refusal => refusal.issues?
    | .ok _ => none

/-- The schema of an identifier, or the fault of its model. -/
def lookup (i : Introspector) : Introspect := fun identifier =>
  (i.introspect identifier).mapError (Refusal.toFault identifier)

/-- Converts the requested models, or all that can be discovered. A schema with invalid parts ends
the run in its first pass, and an integer that cannot be written in its second. -/
def run (i : Introspector) (settings : RunSettings) (requested : Option (List String)) :
    Except RunFault RunResult :=
  let identifiers := requested.getD i.discover
  match i.invalid? identifiers with
  | some issues => .error (.invalid issues)
  | none =>
    match digitFault? (gather i.lookup identifiers).arena with
    | some fault => .error (.digits fault)
    | none => .ok (generate settings i.lookup identifiers)

end Introspector

end StructGen
