import StructGen.Proofs.Withdrawal
/-!
# Two runs compared

What a run says and writes depends on little: the refusals of its identifiers, the schemas in its
arena, and who fails among their names. `files_congr` and `report_congr` compare two runs by these.
-/
namespace StructGen

variable {introspect : Introspect} {ids ids' : List String} {n : String}

theorem mem_convertedModels_iff {n : String} {m : Model} : (n, m) ∈ convertedModels introspect ids ↔
    (n, m) ∈ arenaOf introspect ids ∧ m.failure? (namesOf introspect ids) = none := by
  rw [mem_convertedModels]
  apply and_congr_right
  intro hm
  rw [mem_faults_keys hm, not_not]

/-- Runs that convert the same schemas convert them alike. -/
theorem conversions_congr (h : ∀ e, e ∈ convertedModels introspect ids ↔
      e ∈ convertedModels introspect ids') (n : String) :
    (secondPass introspect ids).conversions.get? n =
      (secondPass introspect ids').conversions.get? n := by
  have hknown : ∀ {l : List String} {e : String × Model}, e ∈ convertedModels introspect l →
      (arenaOf introspect l).get? e.1 = some e.2 := fun he =>
    (Keyed.get?_eq_some (nodup_arenaOf introspect _)).2 (mem_convertedModels.1 he).1
  -- The links of a model depend on the converted models and their schemas only.
  have halike : Scope.Alike (arenaOf introspect ids) (arenaOf introspect ids')
      ((convertedModels introspect ids).map Prod.fst)
      ((convertedModels introspect ids').map Prod.fst) := by
    refine ⟨fun n => ?_, fun n hn => ?_⟩
    · simp only [List.mem_map, h]
    · obtain ⟨e, he, rfl⟩ := List.mem_map.1 hn
      rw [hknown he, hknown ((h e).1 he)]
  ext c
  rw [Keyed.get?_eq_some (nodup_conversions introspect ids),
    Keyed.get?_eq_some (nodup_conversions introspect ids'), mem_conversions, mem_conversions]
  refine exists_congr fun m => and_congr (h (n, m)) ?_
  rw [convertModel_eq, convertModel_eq, m.emitted_congr halike.requested,
    Scope.resolve_congr halike]

/-- Runs that convert the same schemas write the same files. -/
theorem files_congr (settings : RunSettings)
    (h : ∀ e, e ∈ convertedModels introspect ids ↔ e ∈ convertedModels introspect ids') :
    (generate settings introspect ids).files.Perm (generate settings introspect ids').files := by
  have hperm := Keyed.perm_of_get? (nodup_conversions introspect ids)
    (nodup_conversions introspect ids') (conversions_congr h)
  have hfiles := (hperm.map fun e => e.2.file settings e.1).append_right
    (connectionPart settings).files
  exact (files_perm settings introspect ids).trans
    (hfiles.trans (files_perm settings introspect ids').symm)

/-- Runs that come to the same for a name report the same of it. -/
theorem report_congr (settings : RunSettings)
    (hrefusals : refusals introspect ids n = refusals introspect ids' n)
    (hfaults : ((secondPass introspect ids).faults.get? n).map (Diagnostic.ofFault n) =
      ((secondPass introspect ids').faults.get? n).map (Diagnostic.ofFault n))
    (hconversions : (secondPass introspect ids).conversions.get? n =
      (secondPass introspect ids').conversions.get? n) :
    (generate settings introspect ids).diagnostics.filter (·.model = n) =
      (generate settings introspect ids').diagnostics.filter (·.model = n) := by
  rw [report_of, report_of, hrefusals]
  congr 2
  unfold outcome
  rw [← hconversions]
  cases h : (secondPass introspect ids).faults.get? n with
  | none =>
    rw [h, Option.map_none, eq_comm, Option.map_eq_none_iff] at hfaults
    simp only [hfaults]
  | some fault =>
    rw [h, Option.map_some, eq_comm, Option.map_eq_some_iff] at hfaults
    obtain ⟨fault', hf', hd⟩ := hfaults
    simp only [hf', hd]

section
variable (harena : ∀ m, (n, m) ∈ arenaOf introspect ids ↔ (n, m) ∈ arenaOf introspect ids')
  (hfailures : ∀ m, (n, m) ∈ arenaOf introspect ids →
    m.failure? (namesOf introspect ids) = m.failure? (namesOf introspect ids'))
include harena hfailures

theorem faults_congr : ((secondPass introspect ids).faults.get? n).map (Diagnostic.ofFault n) =
    ((secondPass introspect ids').faults.get? n).map (Diagnostic.ofFault n) := by
  by_cases hmem : n ∈ (arenaOf introspect ids).keys
  · obtain ⟨m, hm⟩ := Keyed.mem_keys.1 hmem
    rw [failure_of_fault hm, failure_of_fault ((harena m).1 hm), hfailures m hm]
  · have hmem' : n ∉ (arenaOf introspect ids').keys := by
      intro h
      obtain ⟨m, hm⟩ := Keyed.mem_keys.1 h
      exact hmem (Keyed.keys_of_mem ((harena m).2 hm))
    rw [Keyed.get?_eq_none.2 fun h => hmem (keys_faults_subset h),
      Keyed.get?_eq_none.2 fun h => hmem' (keys_faults_subset h)]

theorem mem_convertedModels_congr (m : Model) :
    (n, m) ∈ convertedModels introspect ids ↔ (n, m) ∈ convertedModels introspect ids' := by
  rw [mem_convertedModels_iff, mem_convertedModels_iff, ← harena m]
  apply and_congr_right
  intro hm
  rw [hfailures m hm]

end

/-- A schema without a key. -/
def keylessTable (name table : String) : Model where
  name
  tableName := table

/-- Orders of customers, of which the customers have no key. The orders also have a column of the
given name. -/
def ordersOf (column : String) : Introspect := fun id =>
  if id = "Customer" then .ok (keylessTable "Customer" "customers")
  else if id = "Order" then .ok {
    name := "Order"
    tableName := "orders"
    columns := [
      { name := "id", sourceType := "Integer", isPrimaryKey := true },
      { name := column, sourceType := "String" }]
    associations := [
      { name := "customer", kind := .belongsTo, target := "Customer", foreignKey := "customer_id" }] }
  else .error (.lookup id ["Customer", "Order"] false)

end StructGen
