import StructGen.Proofs.Report
/-!
# Structs do not hold themselves

`no_value_cycle`: of the structs that a run writes none holds its own value, directly or through the
values of others, so each of them has a size. A field is a value only if the search found no way
back from its target; on a cycle the other fields are such a way.
-/
namespace StructGen

variable {settings : RunSettings} {introspect : Introspect} {ids : List String}

/-- The file of `a` shows a field that holds a value of `b`: a single link that is no pointer. -/
def HoldsValue (settings : RunSettings) (introspect : Introspect) (ids : List String)
    (a b : String) : Prop :=
  ∃ f c, Writes settings introspect ids f a c ∧ ∃ l ∈ c.resolution.links,
    l.field ∈ c.spec.fields ∧ l.cardinality = .single ∧ l.byReference = false ∧
      l.association.target = b

/-- A link is a plain value only if it is declared single, leads to another model and the search
finds no way back. -/
theorem Scope.link_value {scope : Scope} {model : String} {a : Association}
    (hs : (scope.link model a).cardinality = .single)
    (hv : (scope.link model a).byReference = false) :
    a.kind.isCollection = false ∧ a.target ≠ model ∧ scope.embeds a.target model = false := by
  unfold Scope.link at hs hv
  split at hs
  · cases hs
  · next hk =>
    rw [if_neg hk] at hv
    simp only [Bool.or_eq_false_iff, beq_eq_false_iff_ne] at hv
    exact ⟨by simpa using hk, hv.1, hv.2⟩

/-- Along a value the search sees an edge and finds no way back. -/
theorem HoldsValue.edge {a b : String} (h : HoldsValue settings introspect ids a b) :
    b ≠ a ∧ (finalScope introspect ids).Holds (arenaOf introspect ids) a b ∧
      (finalScope introspect ids).embeds b a = false := by
  obtain ⟨_, c, hw, l, hl, -, hs, hv, rfl⟩ := h
  obtain ⟨m, columns, hm, rfl, -, -, hres⟩ := conversion_spec hw.converted
  rw [hres, Scope.resolve_links] at hl
  obtain ⟨s, hs', rfl⟩ := List.mem_map.1 hl
  rw [Scope.link_association]
  obtain ⟨hkind, hne, hback⟩ := Scope.link_value hs hv
  obtain ⟨hdecl, hreq⟩ := Model.mem_emitted hs'
  have hget := (Keyed.get?_eq_some (nodup_arenaOf introspect ids)).2 (mem_convertedModels.1 hm).1
  exact ⟨hne, ⟨m, hget, s, hdecl, hkind, rfl, hne, hreq⟩, hback⟩

/-- No struct of a run holds its own value. -/
theorem no_value_cycle (settings : RunSettings) (introspect : Introspect) (ids : List String)
    (a : String) : ¬Relation.TransGen (HoldsValue settings introspect ids) a a := by
  intro hcycle
  obtain ⟨b, hab, hba⟩ := Relation.TransGen.head'_iff.1 hcycle
  obtain ⟨hne, -, hback⟩ := hab.edge
  have hmono : HoldsValue settings introspect ids ≤
      (finalScope introspect ids).Holds (arenaOf introspect ids) := fun _ _ h => h.edge.2.1
  -- The rest of the cycle is a chain back to `a`, which the search for `b` would have found.
  have hchain := Relation.ReflTransGen.mono hmono _ _ hba
  rcases Relation.reflTransGen_iff_eq_or_transGen.1 hchain with rfl | hchain
  · exact hne rfl
  · rw [← Scope.embeds_iff rfl, hback] at hchain
    cases hchain

end StructGen
