import StructGen.Proofs.SecondPass
/-!
# What becomes of associations

`associations_classified`: every declared association meets exactly one fate. If a later one is over
the same foreign key it is reported against the last of these; otherwise its target is emitted and
it becomes a link, or is not and it is reported. Links and reports keep the order of declaration.
-/
namespace StructGen

/-- What becomes of a declared association: it loses to the last one over the same foreign key, its
target is not emitted, or it becomes a link. -/
inductive Fate
  | repeated (winner : Association)
  | missing
  | linked
deriving DecidableEq, Repr

namespace Fate

/-- The fate of an association, by those that are declared after it. -/
def IsOf (scope : Scope) (table : String) (a : Association) (later : List Association) : Fate → Prop
  | repeated winner => ∃ between after, later = between ++ winner :: after ∧
      winner.key table = a.key table ∧ ∀ b ∈ after, b.key table ≠ a.key table
  | missing => (∀ b ∈ later, b.key table ≠ a.key table) ∧ a.target ∉ scope.requested
  | linked => (∀ b ∈ later, b.key table ≠ a.key table) ∧ a.target ∈ scope.requested

/-- The fate of an association, decided by a search for the winner. -/
def decided (scope : Scope) (table : String) (a : Association) (later : List Association) : Fate :=
  match a.winner? table later with
  | some winner => repeated winner
  | none => if a.target ∈ scope.requested then linked else missing

/-- The fates of associations in order. -/
def ofList (scope : Scope) (table : String) : List Association → List Fate
  | [] => []
  | a :: later => decided scope table a later :: ofList scope table later

/-- What is reported of an association that is repeated. -/
def repetition? (model : String) : Association × Fate → Option Diagnostic
  | (a, repeated winner) => some (duplicateWarning model a winner)
  | _ => none

/-- What is reported of an association whose target is missing. -/
def absence? (model : String) : Association × Fate → Option Diagnostic
  | (a, missing) => some (missingWarning model a)
  | _ => none

end Fate

/-! ## Winners -/

section
variable {scope : Scope} {table : String} {a w : Association} {as later : List Association}

theorem Association.winner?_eq_none : a.winner? table later = none ↔
    ∀ b ∈ later, b.key table ≠ a.key table := by
  simp [winner?]

theorem Association.winner?_eq_some : a.winner? table later = some w ↔
    ∃ between after, later = between ++ w :: after ∧ w.key table = a.key table ∧
      ∀ b ∈ after, b.key table ≠ a.key table := by
  unfold winner?
  rw [List.find?_eq_some_iff_append, beq_iff_eq]
  constructor
  · -- The search runs from the end, so what it passes over is declared after the winner.
    rintro ⟨hkey, front, rest, hlater, hfront⟩
    refine ⟨rest.reverse, front.reverse, ?_, hkey, fun b hb => ?_⟩
    · rw [← List.reverse_reverse later, hlater]
      simp
    · simpa using hfront b (List.mem_reverse.1 hb)
  · rintro ⟨between, after, rfl, hkey, hafter⟩
    refine ⟨hkey, after.reverse, between.reverse, by simp, fun b hb => ?_⟩
    simpa using hafter b (List.mem_reverse.1 hb)

theorem Fate.decided_eq_iff {f : Fate} :
    decided scope table a later = f ↔ f.IsOf scope table a later := by
  unfold decided
  cases f with
  | repeated winner =>
    rw [IsOf, ← Association.winner?_eq_some]
    cases a.winner? table later with
    | some w => simp
    | none => by_cases ht : a.target ∈ scope.requested <;> simp [ht]
  | missing =>
    rw [IsOf, ← Association.winner?_eq_none]
    cases a.winner? table later <;> simp
  | linked =>
    rw [IsOf, ← Association.winner?_eq_none]
    cases a.winner? table later <;> simp

theorem Fate.length_ofList (as : List Association) :
    (ofList scope table as).length = as.length := by
  induction as with
  | nil => rfl
  | cons a later ih => simp [ofList, ih]

theorem Fate.getElem?_ofList (before : List Association) :
    (ofList scope table (before ++ a :: later))[before.length]? =
      some (decided scope table a later) := by
  induction before with
  | nil => rfl
  | cons b before ih => simpa [ofList] using ih

end

/-! ## Links and reports -/

/-- Each association goes where its fate says: to the links, the repeated or the missing ones. -/
theorem parts_eq (scope : Scope) (table model : String) (as : List Association) :
    (keptAssociations table as).filter (fun a => scope.requested.contains a.target) =
        ((as.zip (Fate.ofList scope table as)).filter (·.2 = .linked)).map Prod.fst ∧
      (repeatedAssociations table as).map (fun p => duplicateWarning model p.1 p.2) =
        (as.zip (Fate.ofList scope table as)).filterMap (Fate.repetition? model) ∧
      ((keptAssociations table as).filter fun a => !scope.requested.contains a.target).map
          (missingWarning model) =
        (as.zip (Fate.ofList scope table as)).filterMap (Fate.absence? model) := by
  induction as with
  | nil => exact ⟨rfl, rfl, rfl⟩
  | cons a later ih =>
    unfold keptAssociations repeatedAssociations Fate.ofList Fate.decided
    cases a.winner? table later with
    | some w => exact ⟨ih.1, congrArg _ ih.2.1, ih.2.2⟩
    | none =>
      by_cases ht : a.target ∈ scope.requested <;>
        simpa [ht, List.filterMap_cons, Fate.repetition?, Fate.absence?] using ih

theorem Scope.resolve_parts (scope : Scope) (m : Model) :
    let entries := m.associations.zip (Fate.ofList scope m.tableName m.associations)
    (scope.resolve m).links.map (·.association) = (entries.filter (·.2 = .linked)).map Prod.fst ∧
      (scope.resolve m).diagnostics = entries.filterMap (Fate.repetition? m.name) ++
        entries.filterMap (Fate.absence? m.name) := by
  obtain ⟨hlinks, hrepeated, hmissing⟩ := parts_eq scope m.tableName m.name m.associations
  constructor
  · rw [scope.resolve_associations]
    exact hlinks
  · rw [← hrepeated, ← hmissing]
    rfl

/-- No two associations that are kept are over one foreign key. -/
theorem nodup_kept_keys (table : String) (as : List Association) :
    ((keptAssociations table as).map (·.key table)).Nodup := by
  induction as with
  | nil => exact List.nodup_nil
  | cons a later ih =>
    unfold keptAssociations
    split
    · exact ih
    · next hw =>
      rw [List.map_cons, List.nodup_cons]
      refine ⟨fun hmem => ?_, ih⟩
      obtain ⟨b, hb, hkey⟩ := List.mem_map.1 hmem
      exact Association.winner?_eq_none.1 hw b ((keptAssociations_sublist _ _).subset hb) hkey

theorem nodup_link_keys (scope : Scope) (m : Model) :
    ((scope.resolve m).links.map (·.association.key m.tableName)).Nodup := by
  have hkeys : (scope.resolve m).links.map (·.association.key m.tableName) =
      (m.emitted scope.requested).map (·.key m.tableName) := by
    rw [← scope.resolve_associations, List.map_map]
    rfl
  rw [hkeys]
  exact (nodup_kept_keys m.tableName m.associations).sublist (List.filter_sublist.map _)

section
variable (model : String) (entries : List (Association × Fate))

/-- The parts that the fates give have as many members as there are associations. -/
theorem Fate.count_parts : (entries.filter (·.2 = .linked)).length +
    (entries.filterMap (repetition? model)).length +
      (entries.filterMap (absence? model)).length = entries.length := by
  induction entries with
  | nil => rfl
  | cons e rest ih =>
    obtain ⟨a, f⟩ := e
    cases f <;> simp [List.filterMap_cons, repetition?, absence?] <;> omega

/-- What is reported tells by its kind which fate it is of. -/
theorem Fate.countP_kinds :
    (entries.filterMap (repetition? model) ++ entries.filterMap (absence? model)).countP
        (·.kind = .duplicate) = (entries.filterMap (repetition? model)).length ∧
      (entries.filterMap (repetition? model) ++ entries.filterMap (absence? model)).countP
        (·.kind = .missingTarget) = (entries.filterMap (absence? model)).length := by
  rw [List.countP_append, List.countP_append]
  induction entries with
  | nil => exact ⟨rfl, rfl⟩
  | cons e rest ih =>
    obtain ⟨a, f⟩ := e
    cases f <;>
      simp [List.filterMap_cons, repetition?, absence?, duplicateWarning, missingWarning] <;> omega

end

/-- A link leads to the struct of its association's target, and to many of them if the association
is a collection. -/
theorem Scope.link_shape (scope : Scope) (model : String) (a : Association) :
    (scope.link model a).targetStruct = goName a.target ∧
      ((scope.link model a).cardinality = .many ↔ a.kind = .hasMany ∨ a.kind = .manyToMany) := by
  unfold Scope.link
  cases a.kind <;> simp [AssociationKind.isCollection]

/-! ## The whole resolution -/

/-- The fates of the associations of a model, and what a resolution makes of them. -/
structure Classifies (scope : Scope) (m : Model) (fates : List Fate) : Prop where
  length : fates.length = m.associations.length
  /-- The fate at every position is decided by what is declared after it. -/
  fate : ∀ before a later f, m.associations = before ++ a :: later →
    (fates[before.length]? = some f ↔ f.IsOf scope m.tableName a later)
  links : (scope.resolve m).links.map (·.association) =
    ((m.associations.zip fates).filter (·.2 = .linked)).map Prod.fst
  shape : ∀ l ∈ (scope.resolve m).links, l.targetStruct = goName l.association.target ∧
    (l.cardinality = .many ↔ l.association.kind = .hasMany ∨ l.association.kind = .manyToMany)
  keys : ((scope.resolve m).links.map (·.association.key m.tableName)).Nodup
  diagnostics : (scope.resolve m).diagnostics =
    (m.associations.zip fates).filterMap (Fate.repetition? m.name) ++
      (m.associations.zip fates).filterMap (Fate.absence? m.name)
  count : (scope.resolve m).links.length +
    (scope.resolve m).diagnostics.countP (·.kind = .duplicate) +
    (scope.resolve m).diagnostics.countP (·.kind = .missingTarget) = m.associations.length

/-- Every association of a model is classified: it becomes a link, or it is reported once. -/
theorem associations_classified (scope : Scope) (m : Model) :
    ∃ fates, Classifies scope m fates := by
  obtain ⟨hlinks, hdiagnostics⟩ := scope.resolve_parts m
  refine ⟨Fate.ofList scope m.tableName m.associations, ?_⟩
  constructor
  case length => exact Fate.length_ofList _
  case fate =>
    intro before a later f hm
    rw [hm, Fate.getElem?_ofList, Option.some.injEq, Fate.decided_eq_iff]
  case links => exact hlinks
  case shape =>
    intro l hl
    rw [scope.resolve_links] at hl
    obtain ⟨a, -, rfl⟩ := List.mem_map.1 hl
    rw [scope.link_association]
    exact scope.link_shape m.name a
  case keys => exact nodup_link_keys scope m
  case diagnostics => exact hdiagnostics
  case count =>
    -- Links and associations are as many, and a report is of the kind of its fate.
    have hlength := congrArg List.length hlinks
    rw [List.length_map, List.length_map] at hlength
    obtain ⟨hduplicate, hmissingTarget⟩ := Fate.countP_kinds m.name
      (m.associations.zip (Fate.ofList scope m.tableName m.associations))
    rw [hlength, hdiagnostics, hduplicate, hmissingTarget, Fate.count_parts, List.length_zip,
      Fate.length_ofList, Nat.min_self]

/-- Of two names for one foreign key the later is kept; a target that is not emitted is left out. -/
example :
    let buyer : Association := ⟨"buyer", .belongsTo, "Customer", "customer_id", none⟩
    Fate.ofList ⟨["Order", "Customer"], none⟩ "orders"
        [⟨"customer", .belongsTo, "Customer", "customer_id", none⟩, buyer,
          ⟨"items", .hasMany, "Item", "order_id", none⟩] =
      [.repeated buyer, .linked, .missing] := by decide +kernel

end StructGen
