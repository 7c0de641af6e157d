import StructGen.Diagnostic
import StructGen.Keyed
import StructGen.Naming
import StructGen.Schema
/-!
# The first pass of a run

The identifiers of a run are looked up one after the other. A schema joins the arena under its own
name; an identifier that leads to no schema, or to one whose struct name is taken, gets a failure.
-/
namespace StructGen

/-- Looks a model up. -/
abbrev Introspect := String → Except Fault Model

/-- What the first pass has gathered. -/
structure Gathered where
  /-- The schemas by their own names, in order. -/
  arena : Keyed Model := []
  /-- The model that has each struct name. -/
  structNames : Keyed String := []
  /-- The diagnostics of each model, in the order in which the models first came. -/
  reports : Keyed (List Diagnostic) := []
  /-- The identifiers that led to a model again, with the model's name. -/
  repeated : List (String × String) := []
deriving Repr, Inhabited

namespace Gathered

/-- Adds a diagnostic to those of a model. -/
def report (g : Gathered) (d : Diagnostic) : Gathered :=
  { g with reports := g.reports.update d.model [] (· ++ [d]) }

/-- Adds a model. -/
def add (g : Gathered) (m : Model) : Gathered :=
  { g with
    arena := g.arena ++ [(m.name, m)]
    structNames := g.structNames ++ [(goName m.name, m.name)]
    reports := g.reports.update m.name [] id }

/-- Takes the answer for one identifier. -/
def step (g : Gathered) (identifier : String) (answer : Except Fault Model) : Gathered :=
  match answer with
  | .error fault => g.report (Diagnostic.ofFault identifier fault)
  | .ok m =>
    if g.arena.keys.contains m.name then
      { g with repeated := g.repeated ++ [(identifier, m.name)] }
    else
      match g.structNames.get? (goName m.name) with
      | some earlier =>
        g.report (Diagnostic.ofFault identifier (.nameCollision m.name (goName m.name)
          ["model '" ++ earlier ++ "'", "model '" ++ m.name ++ "'"]))
      | none => g.add m

end Gathered

/-- The first pass over the identifiers. -/
def gather (introspect : Introspect) (identifiers : List String) : Gathered :=
  identifiers.foldl (fun g identifier => g.step identifier (introspect identifier)) {}

end StructGen
