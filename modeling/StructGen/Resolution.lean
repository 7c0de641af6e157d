import StructGen.Diagnostic
import StructGen.Graph
import StructGen.Keyed
import StructGen.Naming
import StructGen.Schema
/-!
# Resolution of associations

The associations of a model become links, each with the shape its field takes. Of several
associations over one foreign key the last is kept; one whose target is not emitted is dropped; both
are reported. A single value whose target holds this model by value in turn cannot be laid out, so
it becomes a pointer: `Scope.embeds` searches for the way back.
-/
namespace StructGen

/-- The models of a run: the names that are emitted and, where they are known, the schemas. -/
structure Scope where
  requested : List String
  arena : Option (Keyed Model) := none

namespace Association

/-- Where the foreign key of an association is stored: in the table of its own model, in that of its
target, or in a join table. -/
def owner (a : Association) (table : String) : String :=
  match a.kind with
  | .belongsTo => table
  | .manyToMany => "join:" ++ a.joinTable.getD "None"
  | .hasOne | .hasMany => "model:" ++ a.target

/-- Two associations of one model are over the same foreign key if their keys agree. -/
def key (a : Association) (table : String) : String × String :=
  (a.owner table, a.foreignKey)

/-- The last of the later associations that is over the same foreign key. -/
def winner? (a : Association) (table : String) (later : List Association) : Option Association :=
  later.reverse.find? fun b => b.key table == a.key table

end Association

/-- The associations that no later one repeats. -/
def keptAssociations (table : String) : List Association → List Association
  | [] => []
  | a :: later =>
    match a.winner? table later with
    | some _ => keptAssociations table later
    | none => a :: keptAssociations table later

/-- The associations that a later one repeats, each with the one that is kept. -/
def repeatedAssociations (table : String) : List Association → List (Association × Association)
  | [] => []
  | a :: later =>
    match a.winner? table later with
    | some w => (a, w) :: repeatedAssociations table later
    | none => repeatedAssociations table later

namespace Scope

/-- The models whose values a model of this name holds in itself, if its fields are no pointers. -/
def embedded (scope : Scope) (name : String) (m : Model) : List String :=
  (m.associations.filter fun a =>
    !a.kind.isCollection && a.target != name && scope.requested.contains a.target).map (·.target)

/-- The models held by the model of a name; none if its schema is not known. -/
def next (scope : Scope) (arena : Keyed Model) (name : String) : List String :=
  match arena.get? name with
  | some m => scope.embedded name m
  | none => []

/-- The model `start` holds `goal` by value, directly or through other models. -/
def embeds (scope : Scope) (start goal : String) : Bool :=
  match scope.arena with
  | none => false
  | some arena =>
    (Graph.walk arena.keys (scope.next arena) [] [start]).any fun n =>
      (scope.next arena n).contains goal

/-- The link of an association whose target is emitted. -/
def link (scope : Scope) (model : String) (a : Association) : Link :=
  if a.kind.isCollection then
    { association := a, targetStruct := goName a.target, cardinality := .many }
  else
    { association := a
      targetStruct := goName a.target
      cardinality := .single
      byReference := a.target == model || scope.embeds a.target model }

end Scope

/-- The warning about an association that `winner` repeats. -/
def duplicateWarning (model : String) (a winner : Association) : Diagnostic where
  model
  kind := .duplicate
  message := "foreign key '" ++ a.foreignKey ++ "' is declared again by '" ++ winner.name ++
    "'; keeping the later declaration"
  code := some "DUPLICATE_ASSOCIATION"
  subject := some (model ++ "." ++ a.name)

/-- The warning about an association whose target is not emitted. -/
def missingWarning (model : String) (a : Association) : Diagnostic where
  model
  kind := .missingTarget
  message := "target model '" ++ a.target ++ "' is not part of this run; dropping " ++
    a.kind.name ++ " association"
  code := some "MISSING_ASSOCIATION_TARGET"
  subject := some (model ++ "." ++ a.name)

/-- The links of a model and the warnings about the associations that became none. -/
structure Resolution where
  links : List Link := []
  diagnostics : List Diagnostic := []
deriving DecidableEq, Repr, Inhabited

/-- The links of a model in a run. -/
def Scope.resolve (scope : Scope) (m : Model) : Resolution :=
  let kept := keptAssociations m.tableName m.associations
  let emitted := fun (a : Association) => scope.requested.contains a.target
  { links := (kept.filter emitted).map (scope.link m.name)
    diagnostics :=
      (repeatedAssociations m.tableName m.associations).map
          (fun p => duplicateWarning m.name p.1 p.2) ++
        (kept.filter fun a => !emitted a).map (missingWarning m.name) }

end StructGen
