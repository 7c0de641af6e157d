import StructGen.Proofs.Clashes
import StructGen.Proofs.Report
/-!
# Runs without a request

A request that is left out takes its schema with it, so a struct name may pass on to a later schema
that has it. Where it does not, nothing else changes in the first pass. What the second pass makes
of a model is read off the names of the arena (`Model.failure?`).
-/
namespace StructGen

/-- The identifiers of a run without one of them. -/
def without (ids : List String) (x : String) : List String :=
  ids.filter (· ≠ x)

variable {introspect : Introspect} {ids ids' : List String} {x : String}

/-! ## The first pass -/

theorem mem_without {id : String} : id ∈ without ids x ↔ id ∈ ids ∧ id ≠ x := by
  simp [without]

theorem count_without {id : String} (h : id ≠ x) : (without ids x).count id = ids.count id :=
  List.count_filter (by simpa using h)

theorem holder_cons_ok {id : String} {m : Model} (h : introspect id = .ok m) (struct : String) :
    holder? introspect (id :: ids) struct =
      if goName m.name = struct then some m else holder? introspect ids struct := by
  unfold holder? schemas
  by_cases hs : goName m.name = struct <;> simp [h, Except.toOption, hs]

theorem holder_cons_error {id : String} {fault : Fault} (h : introspect id = .error fault)
    (struct : String) : holder? introspect (id :: ids) struct = holder? introspect ids struct := by
  unfold holder? schemas
  simp [h, Except.toOption]

/-- A struct name stays where it is when a request is left out whose schema does not have it. -/
theorem holder_without {struct : String}
    (h : ∀ m, introspect x = .ok m → holder? introspect ids struct ≠ some m) :
    holder? introspect (without ids x) struct = holder? introspect ids struct := by
  induction ids with
  | nil => rfl
  | cons id rest ih =>
    cases hi : introspect id with
    | error fault =>
      rw [holder_cons_error hi] at h ⊢
      rw [← ih h]
      by_cases hx : id = x
      · simp [without, hx]
      · rw [without, List.filter_cons_of_pos (by simpa using hx), holder_cons_error hi]
        rfl
    | ok m =>
      rw [holder_cons_ok hi] at h ⊢
      by_cases hx : id = x
      · -- What is left out here does not have the struct name, or it would hold it.
        subst hx
        have hs : goName m.name ≠ struct := by
          intro hs
          exact h m hi (if_pos hs)
        simp only [if_neg hs] at h ⊢
        rw [← ih h]
        simp [without]
      · rw [without, List.filter_cons_of_pos (by simpa using hx), holder_cons_ok hi]
        by_cases hs : goName m.name = struct
        · rw [if_pos hs, if_pos hs]
        · simp only [if_neg hs] at h ⊢
          exact ih h

/-- An identifier is refused alike if its struct name belongs to a model of the same name. -/
theorem refusal_congr {id : String}
    (h : ∀ m, introspect id = .ok m → (holder? introspect ids (goName m.name)).map (·.name) =
      (holder? introspect ids' (goName m.name)).map (·.name)) :
    refusal? introspect ids id = refusal? introspect ids' id := by
  unfold refusal?
  cases hi : introspect id with
  | error fault => rfl
  | ok m =>
    have hm := h m hi
    cases ht : holder? introspect ids (goName m.name) with
    | none =>
      rw [ht, Option.map_none, eq_comm, Option.map_eq_none_iff] at hm
      simp only [ht, hm]
    | some t =>
      rw [ht, Option.map_some, eq_comm, Option.map_eq_some_iff] at hm
      obtain ⟨t', ht', hname⟩ := hm
      simp only [ht, ht', hname]

theorem refusals_without {id : String} (hne : id ≠ x)
    (h : id ∈ ids → ∀ m, introspect id = .ok m →
      (holder? introspect (without ids x) (goName m.name)).map (·.name) =
        (holder? introspect ids (goName m.name)).map (·.name)) :
    refusals introspect (without ids x) id = refusals introspect ids id := by
  by_cases hid : id ∈ ids
  · unfold refusals
    rw [refusal_congr (h hid), count_without hne]
  · rw [refusals_of_not_mem hid, refusals_of_not_mem fun hw => hid (mem_without.1 hw).1]

/-! ## The second pass -/

/-- The failure of a model among these names, as it is reported. -/
def Model.failure? (m : Model) (names : List String) : Option Diagnostic :=
  match m.check (m.emitted names) with
  | .ok _ => none
  | .error obstacle => some (Diagnostic.ofFault m.name obstacle.toFault)

theorem Model.failure_congr (m : Model) {names names' : List String}
    (h : ∀ n, n ∈ names ↔ n ∈ names') : m.failure? names = m.failure? names' := by
  unfold Model.failure?
  rw [m.emitted_congr h]

/-- The models that are available to the second pass of a run. -/
def namesOf (introspect : Introspect) (ids : List String) : List String :=
  (arenaOf introspect ids).keys

theorem mem_namesOf {n : String} : n ∈ namesOf introspect ids ↔
    ∃ m, m.name = n ∧ holder? introspect ids (goName n) = some m := by
  rw [namesOf, Keyed.mem_keys]
  exact exists_congr fun m => mem_arenaOf

theorem failure_of_fault {n : String} {m : Model} (hm : (n, m) ∈ arenaOf introspect ids) :
    ((secondPass introspect ids).faults.get? n).map (Diagnostic.ofFault n) =
      m.failure? (namesOf introspect ids) := by
  have hname := (mem_arenaOf.1 hm).1
  cases hcheck : m.check (m.emitted (namesOf introspect ids)) with
  | error obstacle =>
    have hf := mem_faults.2 ⟨m, hm, convertModel_eq_error.2 ⟨obstacle, hcheck, rfl⟩⟩
    rw [(Keyed.get?_eq_some (nodup_faults introspect ids)).2 hf]
    simp [Model.failure?, hcheck, hname]
  | ok columns =>
    have hnone : n ∉ (secondPass introspect ids).faults.keys := by
      intro hn
      obtain ⟨fault, hf⟩ := Keyed.mem_keys.1 hn
      obtain ⟨t, ht, hfault⟩ := mem_faults.1 hf
      obtain rfl := Keyed.eq_of_mem (nodup_arenaOf introspect ids) hm ht
      obtain ⟨obstacle, hfault, -⟩ := convertModel_eq_error.1 hfault
      rw [namesOf, hfault] at hcheck
      cases hcheck
    rw [Keyed.get?_eq_none.2 hnone]
    simp [Model.failure?, hcheck]

theorem mem_faults_keys {n : String} {m : Model} (hm : (n, m) ∈ arenaOf introspect ids) :
    n ∈ (secondPass introspect ids).faults.keys ↔ m.failure? (namesOf introspect ids) ≠ none := by
  rw [← failure_of_fault hm, ne_eq, Option.map_eq_none_iff, Keyed.get?_eq_none, not_not]

end StructGen
