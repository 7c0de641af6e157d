import Mathlib.Data.List.Basic
import StructGen.Proofs.Embedding
import StructGen.Proofs.Synthesis
import StructGen.Run.Conversion
/-!
# What the second pass comes to

Whether a model fails depends on the associations it keeps, and so on the names that are available,
not on the schemas behind them. With fewer names it keeps fewer associations, so a model that does
not fail in the first round fails in no later one: `convert_eq` says that the first round decides
who fails, and the round of the survivors decides what is written.
-/
namespace StructGen

/-! ## One model -/

theorem keptAssociations_sublist (table : String) (as : List Association) :
    (keptAssociations table as).Sublist as := by
  induction as with
  | nil => exact .slnil
  | cons a later ih =>
    unfold keptAssociations
    split
    · exact ih.cons a
    · exact ih.cons_cons a

/-- The associations of a model that become links when these names are available. -/
def Model.emitted (m : Model) (names : List String) : List Association :=
  (keptAssociations m.tableName m.associations).filter fun a => names.contains a.target

theorem Model.mem_emitted {m : Model} {names : List String} {a : Association}
    (h : a ∈ m.emitted names) : a ∈ m.associations ∧ a.target ∈ names := by
  obtain ⟨ha, ht⟩ := List.mem_filter.1 h
  exact ⟨(keptAssociations_sublist _ _).subset ha, by simpa using ht⟩

theorem Model.emitted_sublist (m : Model) {names names' : List String}
    (h : ∀ n ∈ names', n ∈ names) : (m.emitted names').Sublist (m.emitted names) :=
  List.monotone_filter_right _ fun a ha => by simpa using h a.target (by simpa using ha)

theorem Model.emitted_congr (m : Model) {names names' : List String}
    (h : ∀ n, n ∈ names ↔ n ∈ names') : m.emitted names = m.emitted names' := by
  apply List.filter_congr
  intro a _
  rw [Bool.eq_iff_iff, List.contains_iff_mem, List.contains_iff_mem, h]

theorem Scope.resolve_links (scope : Scope) (m : Model) :
    (scope.resolve m).links = (m.emitted scope.requested).map (scope.link m.name) := rfl

theorem Scope.link_association (scope : Scope) (model : String) (a : Association) :
    (scope.link model a).association = a := by
  unfold Scope.link
  split <;> rfl

theorem Scope.resolve_associations (scope : Scope) (m : Model) :
    (scope.resolve m).links.map (·.association) = m.emitted scope.requested := by
  rw [scope.resolve_links, List.map_map]
  conv_rhs => rw [← List.map_id (m.emitted scope.requested)]
  exact List.map_congr_left fun a _ => scope.link_association m.name a

theorem tryConvert_eq (arena : Keyed Model) (names : List String) (m : Model) :
    tryConvert arena names m = (m.check (m.emitted names)).map fun columns =>
      { spec := m.struct columns (Scope.resolve ⟨names, some arena⟩ m).links
        resolution := Scope.resolve ⟨names, some arena⟩ m } := by
  unfold tryConvert
  simp only [Model.synthesize_eq, Scope.resolve_associations]
  cases m.check (m.emitted names) <;> rfl

theorem convertModel_eq (arena : Keyed Model) (names : List String) (m : Model) :
    convertModel arena names m = ((m.check (m.emitted names)).map fun columns =>
      { spec := m.struct columns (Scope.resolve ⟨names, some arena⟩ m).links
        resolution := Scope.resolve ⟨names, some arena⟩ m }).mapError Obstacle.toFault := by
  rw [convertModel, tryConvert_eq]

theorem convertModel_eq_ok {arena : Keyed Model} {names : List String} {m : Model} {c : Conversion} :
    convertModel arena names m = .ok c ↔ ∃ columns, m.check (m.emitted names) = .ok columns ∧
      c.spec = m.struct columns c.resolution.links ∧
      c.resolution = Scope.resolve ⟨names, some arena⟩ m := by
  rw [convertModel_eq, mapError_eq_ok, map_eq_ok]
  refine exists_congr fun columns => and_congr_right fun _ => ?_
  constructor
  · rintro rfl
    exact ⟨rfl, rfl⟩
  · rintro ⟨hs, hr⟩
    obtain ⟨spec, resolution⟩ := c
    simp only at hs hr
    rw [hs, hr]

theorem synthesize_of_convertModel {arena : Keyed Model} {names : List String} {m : Model}
    {c : Conversion} (h : convertModel arena names m = .ok c) :
    m.synthesize c.resolution.links = .ok c.spec := by
  rw [convertModel, mapError_eq_ok, tryConvert, bind_eq_ok] at h
  obtain ⟨spec, hspec, h⟩ := h
  cases h
  exact hspec

/-- Whether and how a model fails does not depend on the schemas of the others. -/
theorem convertModel_eq_error {arena : Keyed Model} {names : List String} {m : Model} {fault : Fault} :
    convertModel arena names m = .error fault ↔
      ∃ obstacle, m.check (m.emitted names) = .error obstacle ∧ obstacle.toFault = fault := by
  rw [convertModel_eq, mapError_eq_error]
  simp only [map_eq_error]

/-- Only the columns of a model come to an integer that cannot be written, not its associations. -/
theorem Model.check_eq_digits {m : Model} {kept : List Association} {fault : Number.DigitFault} :
    m.check kept = .error (.digits fault) ↔
      m.keyFault? = none ∧ columnFields m.name methodNames m.columns = .error (.digits fault) := by
  unfold Model.check
  cases m.keyFault? with
  | some keyFault => simp [throw, throwThe, MonadExceptOf.throw, bind, Except.bind]
  | none =>
    cases columnFields m.name methodNames m.columns with
    | error obstacle => simp [bind, Except.bind]
    | ok r =>
      cases htaken : takeNames m.name r.2 kept <;>
        simp [htaken, Except.mapError, bind, Except.bind, pure, Except.pure]

/-- Where the first round comes to no integer that cannot be written, no round does: what stops a model
of the run is a fault. -/
theorem tryConvert_fault {arena : Keyed Model} (h : digitFault? arena = none) {k : String} {m : Model}
    (hm : (k, m) ∈ arena) {names : List String} {obstacle : Obstacle}
    (hfail : tryConvert arena names m = .error obstacle) : ∃ fault, obstacle = .fault fault := by
  cases obstacle with
  | fault fault => exact ⟨fault, rfl⟩
  | digits fault =>
    rw [tryConvert_eq, map_eq_error, Model.check_eq_digits] at hfail
    have hfirst : tryConvert arena arena.keys m = .error (.digits fault) := by
      rw [tryConvert_eq, map_eq_error, Model.check_eq_digits]
      exact hfail
    have hnone := List.findSome?_eq_none_iff.1 h (k, m) hm
    rw [hfirst] at hnone
    cases hnone

/-- A model that is converted is converted among fewer models too. -/
theorem convertModel_fewer {arena : Keyed Model} {names names' : List String} {m : Model}
    (h : ∀ n ∈ names', n ∈ names) (hok : ∃ c, convertModel arena names m = .ok c) :
    ∃ c, convertModel arena names' m = .ok c := by
  obtain ⟨c, hc⟩ := hok
  obtain ⟨columns, hcheck, -⟩ := convertModel_eq_ok.1 hc
  have hfewer := Model.check_sublist (m.emitted_sublist h) hcheck
  rw [convertModel_eq, hfewer]
  exact ⟨_, rfl⟩

/-! ## One round -/

variable {arena : Keyed Model} {available : List (String × Model)}

theorem mem_failedIn {k : String} {fault : Fault} : (k, fault) ∈ failedIn arena available ↔
    ∃ m, (k, m) ∈ available ∧ convertModel arena (available.map Prod.fst) m = .error fault := by
  unfold failedIn
  rw [List.mem_filterMap]
  constructor
  · rintro ⟨⟨n, m⟩, hm, he⟩
    split at he
    · cases he
    · next f hf =>
      cases he
      exact ⟨m, hm, hf⟩
  · rintro ⟨m, hm, hf⟩
    exact ⟨(k, m), hm, by rw [hf]⟩

theorem mem_convertedIn {k : String} {c : Conversion} : (k, c) ∈ convertedIn arena available ↔
    ∃ m, (k, m) ∈ available ∧ convertModel arena (available.map Prod.fst) m = .ok c := by
  unfold convertedIn
  rw [List.mem_filterMap]
  constructor
  · rintro ⟨⟨n, m⟩, hm, he⟩
    split at he
    · next c' hc =>
      cases he
      exact ⟨m, hm, hc⟩
    · cases he
  · rintro ⟨m, hm, hc⟩
    exact ⟨(k, m), hm, by rw [hc]⟩

/-- Entries that keep their keys keep the order of these. -/
theorem keys_filterMap_sublist {α β : Type} {f : String × α → Option (String × β)}
    (hf : ∀ e v, f e = some v → v.1 = e.1) (l : List (String × α)) :
    (Keyed.keys (l.filterMap f)).Sublist (l.map Prod.fst) := by
  induction l with
  | nil => exact .slnil
  | cons e rest ih =>
    cases h : f e with
    | none => simpa [List.filterMap_cons, h] using ih.cons e.1
    | some v => simpa [List.filterMap_cons, h, hf e v h] using ih.cons_cons e.1

theorem keys_failedIn_sublist (arena : Keyed Model) (available : List (String × Model)) :
    (failedIn arena available).keys.Sublist (available.map Prod.fst) := by
  refine keys_filterMap_sublist (fun e v h => ?_) available
  split at h <;> cases h
  rfl

theorem keys_convertedIn_sublist (arena : Keyed Model) (available : List (String × Model)) :
    (convertedIn arena available).keys.Sublist (available.map Prod.fst) := by
  refine keys_filterMap_sublist (fun e v h => ?_) available
  split at h <;> cases h
  rfl

/-! ## All rounds -/

/-- The models that do not fail in a round. -/
def survivors (arena : Keyed Model) (available : List (String × Model)) : List (String × Model) :=
  standing (failedIn arena available) available

theorem survivors_sublist (arena : Keyed Model) (available : List (String × Model)) :
    (survivors arena available).Sublist available :=
  List.filter_sublist

theorem mem_survivors {k : String} {m : Model} : (k, m) ∈ survivors arena available ↔
    (k, m) ∈ available ∧ k ∉ (failedIn arena available).keys := by
  simp [survivors, standing]

/-- A model that does not fail in the first round fails in no later one. -/
theorem failedIn_survivors (arena : Keyed Model) (available : List (String × Model)) :
    failedIn arena (survivors arena available) = [] := by
  rw [List.eq_nil_iff_forall_not_mem]
  rintro ⟨k, fault⟩ hf
  obtain ⟨m, hm, hfault⟩ := mem_failedIn.1 hf
  obtain ⟨hm, hk⟩ := mem_survivors.1 hm
  -- It was converted among more models, so it is among the survivors.
  have hok : ∃ c, convertModel arena (available.map Prod.fst) m = .ok c := by
    cases h : convertModel arena (available.map Prod.fst) m with
    | error fault => exact absurd (Keyed.keys_of_mem (mem_failedIn.2 ⟨m, hm, h⟩)) hk
    | ok c => exact ⟨c, rfl⟩
  obtain ⟨c, hc⟩ :=
    convertModel_fewer (fun n hn => ((survivors_sublist arena available).map Prod.fst).subset hn) hok
  rw [hc] at hfault
  cases hfault

/-- The first round decides who fails, the round of the survivors what is written. -/
theorem convert_eq (arena : Keyed Model) (available : List (String × Model)) :
    convert arena available =
      { conversions := convertedIn arena (survivors arena available)
        faults := failedIn arena available } := by
  have hlast : convert arena (survivors arena available) =
      { conversions := convertedIn arena (survivors arena available) } := by
    rw [convert]
    simp [failedIn_survivors]
  rw [convert]
  split
  · next h =>
    have hall : survivors arena available = available := by
      simp [survivors, standing, h, Keyed.keys]
    simp [hall, h]
  · rw [show standing (failedIn arena available) available = survivors arena available from rfl, hlast]
    simp

/-- A model that does not fail is converted among the survivors. -/
theorem converted_of_mem_survivors {k : String} {m : Model} (h : (k, m) ∈ survivors arena available) :
    ∃ c, convertModel arena ((survivors arena available).map Prod.fst) m = .ok c := by
  cases hm : convertModel arena ((survivors arena available).map Prod.fst) m with
  | ok c => exact ⟨c, rfl⟩
  | error fault =>
    have hf := mem_failedIn.2 ⟨m, h, hm⟩
    rw [failedIn_survivors] at hf
    cases hf

theorem keys_conversions (arena : Keyed Model) (available : List (String × Model)) (k : String) :
    k ∈ (convert arena available).conversions.keys ↔ k ∈ (survivors arena available).map Prod.fst := by
  rw [convert_eq]
  refine ⟨fun h => (keys_convertedIn_sublist _ _).subset h, fun h => ?_⟩
  obtain ⟨⟨n, m⟩, hm, rfl⟩ := List.mem_map.1 h
  obtain ⟨c, hc⟩ := converted_of_mem_survivors hm
  exact Keyed.keys_of_mem (mem_convertedIn.2 ⟨m, hm, hc⟩)

end StructGen
