import StructGen.Proofs.Keyed
import StructGen.Proofs.Walk
import StructGen.Resolution
/-!
# Which models hold which by value

`Scope.embeds_iff`: the search for the way back from one model to another finds it if and only if
there is a chain of single associations between them. Such a chain stays among the requested models,
so arenas that agree on these give the same links.
-/
namespace StructGen.Scope

variable {scope : Scope} {arena arena' : Keyed Model}

/-- The schema of `a` declares a single association to `b`, another requested model. -/
def Holds (scope : Scope) (arena : Keyed Model) (a b : String) : Prop :=
  ∃ m, arena.get? a = some m ∧
    ∃ s ∈ m.associations, s.kind.isCollection = false ∧ s.target = b ∧ b ≠ a ∧ b ∈ scope.requested

theorem mem_next {a b : String} : b ∈ scope.next arena a ↔ scope.Holds arena a b := by
  unfold next Holds
  cases arena.get? a with
  | none => simp
  | some m =>
    simp only [embedded, List.mem_map, List.mem_filter, Bool.and_eq_true, Bool.not_eq_true',
      bne_iff_ne, List.contains_iff_mem, Option.some.injEq, exists_eq_left']
    constructor
    · rintro ⟨s, ⟨hs, ⟨hk, hne⟩, hr⟩, rfl⟩
      exact ⟨s, hs, hk, rfl, hne, hr⟩
    · rintro ⟨s, hs, hk, rfl, hne, hr⟩
      exact ⟨s, ⟨hs, ⟨hk, hne⟩, hr⟩, rfl⟩

theorem Holds.source_mem {a b : String} (h : scope.Holds arena a b) : a ∈ arena.keys := by
  obtain ⟨m, hm, -⟩ := h
  exact Keyed.keys_of_mem (Keyed.mem_of_get? hm)

theorem Holds.target_mem {a b : String} (h : scope.Holds arena a b) : b ∈ scope.requested := by
  obtain ⟨_, -, _, -, -, -, -, hb⟩ := h
  exact hb

/-- A chain whose last model is in the arena stays in the arena. -/
theorem edges_of_holds {a b : String} (hb : b ∈ arena.keys)
    (h : Relation.ReflTransGen (scope.Holds arena) a b) :
    a ∈ arena.keys ∧ Relation.ReflTransGen (Graph.Edge arena.keys (scope.next arena)) a b := by
  induction h using Relation.ReflTransGen.head_induction_on with
  | refl => exact ⟨hb, .refl⟩
  | head hac _ ih => exact ⟨hac.source_mem, .head ⟨mem_next.2 hac, ih.1⟩ ih.2⟩

/-- The search finds a way from `a` to `b` if and only if there is one. -/
theorem embeds_iff (ha : scope.arena = some arena) {a b : String} :
    scope.embeds a b = true ↔ Relation.TransGen (scope.Holds arena) a b := by
  -- The search asks every node that it walks to whether `b` comes next.
  have hsearch : scope.embeds a b = true ↔
      ∃ n ∈ Graph.walk arena.keys (scope.next arena) [] [a], scope.Holds arena n b := by
    simp only [embeds, ha, List.any_eq_true, List.contains_iff_mem, mem_next]
  rw [hsearch]
  constructor
  · rintro ⟨n, hn, hnb⟩
    obtain ⟨s, hs, -, hr⟩ := Graph.mem_walk_iff.1 hn
    obtain rfl := List.mem_singleton.1 hs
    have hmono : Graph.Edge arena.keys (scope.next arena) ≤ scope.Holds arena :=
      fun _ _ he => mem_next.1 he.1
    exact .tail' (Relation.ReflTransGen.mono hmono _ _ hr) hnb
  · intro h
    obtain ⟨n, hr, hnb⟩ := Relation.TransGen.tail'_iff.1 h
    obtain ⟨ha, hr⟩ := edges_of_holds hnb.source_mem hr
    exact ⟨n, Graph.mem_walk_iff.2 ⟨a, List.mem_singleton_self a, ha, hr⟩, hnb⟩

/-! ## Links depend on the requested models only -/

theorem Holds.of_agree {scope' : Scope} {a b : String} (h : scope.Holds arena a b)
    (hreq : ∀ n, n ∈ scope.requested → n ∈ scope'.requested) (hagree : arena.get? a = arena'.get? a) :
    scope'.Holds arena' a b := by
  obtain ⟨m, hm, s, hs, hk, ht, hne, hb⟩ := h
  exact ⟨m, hagree ▸ hm, s, hs, hk, ht, hne, hreq b hb⟩

/-- A chain from a requested model is one in every arena that knows the requested models alike. -/
theorem chain_of_agree {scope' : Scope} {a b : String}
    (hreq : ∀ n, n ∈ scope.requested → n ∈ scope'.requested)
    (hagree : ∀ n ∈ scope.requested, arena.get? n = arena'.get? n) (ha : a ∈ scope.requested)
    (h : Relation.TransGen (scope.Holds arena) a b) : Relation.TransGen (scope'.Holds arena') a b := by
  induction h using Relation.TransGen.head_induction_on with
  | single h => exact .single (h.of_agree hreq (hagree _ ha))
  | head h _ ih => exact .head (h.of_agree hreq (hagree _ ha)) (ih h.target_mem)

/-- Two scopes that request the same models and know them alike. -/
structure Alike (arena arena' : Keyed Model) (r r' : List String) : Prop where
  requested : ∀ n, n ∈ r ↔ n ∈ r'
  known : ∀ n ∈ r, arena.get? n = arena'.get? n

theorem Alike.symm {r r' : List String} (h : Alike arena arena' r r') : Alike arena' arena r' r :=
  ⟨fun n => (h.requested n).symm, fun n hn => (h.known n ((h.requested n).2 hn)).symm⟩

theorem embeds_congr {r r' : List String} (h : Alike arena arena' r r') {a b : String} (ha : a ∈ r) :
    embeds ⟨r, some arena⟩ a b = embeds ⟨r', some arena'⟩ a b := by
  rw [Bool.eq_iff_iff, embeds_iff rfl, embeds_iff rfl]
  constructor
  · exact chain_of_agree (fun n => (h.requested n).1) h.known ha
  · exact chain_of_agree (fun n => (h.requested n).2) h.symm.known ((h.requested a).1 ha)

theorem link_congr {r r' : List String} (h : Alike arena arena' r r') (model : String)
    {s : Association} (hs : s.target ∈ r) :
    link ⟨r, some arena⟩ model s = link ⟨r', some arena'⟩ model s := by
  unfold link
  rw [embeds_congr h hs]

/-- Scopes that are alike resolve alike. -/
theorem resolve_congr {r r' : List String} (h : Alike arena arena' r r') (m : Model) :
    resolve ⟨r, some arena⟩ m = resolve ⟨r', some arena'⟩ m := by
  have hcontains : ∀ s : Association, r.contains s.target = r'.contains s.target := by
    intro s
    rw [Bool.eq_iff_iff, List.contains_iff_mem, List.contains_iff_mem, h.requested]
  unfold resolve
  simp only [hcontains]
  congr 1
  apply List.map_congr_left
  intro s hs
  apply link_congr h
  rw [h.requested, ← List.contains_iff_mem]
  exact (List.mem_filter.1 hs).2

end StructGen.Scope
