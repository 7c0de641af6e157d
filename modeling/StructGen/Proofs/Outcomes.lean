import Mathlib.Data.List.Flatten
import StructGen.Proofs.Report
/-!
# The outcomes of a run add up

`outcomes_balance`: the conversions and failures that a run reports, together with the identifiers
it skips, are as many as its identifiers. Conversions are reported in the order of the files, the
warnings of a model before its conversion, and no model fails in two rounds of the second pass.
-/
namespace StructGen

variable {settings : RunSettings} {introspect : Introspect} {ids : List String}

/-! ## The first pass -/

namespace Gathered

/-- The answer for an identifier is a schema whose name is in the arena. -/
def knows (g : Gathered) : Except Fault Model → Bool
  | .ok m => g.arena.keys.contains m.name
  | .error _ => false

/-- The number of diagnostics that are gathered. -/
def reported (g : Gathered) : Nat :=
  (g.reports.flatMap Prod.snd).length

theorem reported_report (g : Gathered) (d : Diagnostic) : (g.report d).reported = g.reported + 1 :=
  Keyed.length_flatMap_update _ _ fun _ => by simp

theorem reported_add (g : Gathered) (m : Model) : (g.add m).reported = g.reported :=
  Keyed.length_flatMap_update g.reports m.name (n := 0) fun _ => rfl

/-- An identifier is reported, joins the arena or is skipped. -/
theorem step_balance (g : Gathered) (id : String) (answer : Except Fault Model) :
    (g.step id answer).reported + (g.step id answer).arena.length +
      (if g.knows answer then 1 else 0) = g.reported + g.arena.length + 1 := by
  have hreport : ∀ fault : Fault,
      (g.report (Diagnostic.ofFault id fault)).reported +
        (g.report (Diagnostic.ofFault id fault)).arena.length =
          g.reported + g.arena.length + 1 := by
    intro fault
    rw [reported_report]
    simp only [report]
    omega
  cases answer with
  | error fault => exact hreport fault
  | ok m =>
    by_cases hknown : g.arena.keys.contains m.name = true
    · have hknows : g.knows (.ok m) = true := hknown
      simp only [step, if_pos hknown, hknows]
      rfl
    · have hknows : g.knows (.ok m) = false := by simpa [knows] using hknown
      simp only [step, if_neg hknown, hknows, Bool.false_eq_true, if_false]
      split
      · exact hreport _
      · rw [reported_add]
        simp only [add, List.length_append, List.length_singleton]
        omega

end Gathered

/-- How many identifiers lead to a schema whose name is in the arena when they are reached. -/
def skipped (introspect : Introspect) (ids : List String) : Nat :=
  (List.range ids.length).countP fun i =>
    (ids[i]?).any fun id => (gather introspect (ids.take i)).knows (introspect id)

theorem skipped_append_singleton (introspect : Introspect) (ids : List String) (id : String) :
    skipped introspect (ids ++ [id]) =
      skipped introspect ids + if (gather introspect ids).knows (introspect id) then 1 else 0 := by
  have hbefore : (List.range ids.length).countP (fun i => ((ids ++ [id])[i]?).any fun id' =>
      (gather introspect ((ids ++ [id]).take i)).knows (introspect id')) =
        skipped introspect ids := by
    refine List.countP_congr fun i hi => ?_
    have hlt := List.mem_range.1 hi
    rw [List.getElem?_append_left hlt, List.take_append_of_le_length (Nat.le_of_lt hlt)]
  rw [skipped, List.length_append, List.length_singleton, List.range_succ, List.countP_append,
    hbefore, List.countP_singleton]
  simp

theorem gather_balance (introspect : Introspect) (ids : List String) :
    (gather introspect ids).reported + (arenaOf introspect ids).length + skipped introspect ids =
      ids.length := by
  -- From the right: whether an identifier is skipped depends on those before it.
  induction ids using List.reverseRecOn with
  | nil => rfl
  | append_singleton ids id ih =>
    have hstep := (gather introspect ids).step_balance id (introspect id)
    rw [arenaOf, gather_append_singleton, skipped_append_singleton, List.length_append,
      List.length_singleton]
    rw [arenaOf] at ih
    omega

/-! ## The second pass -/

theorem reported_faults (faults : Keyed Fault) (g : Gathered) :
    (faults.foldl (fun g f => g.report (Diagnostic.ofFault f.1 f.2)) g).reported =
      g.reported + faults.length := by
  induction faults generalizing g with
  | nil => rfl
  | cons f rest ih =>
    rw [List.foldl_cons, ih, Gathered.reported_report, List.length_cons]
    omega

/-- The models of the arena are those that are converted and those that fail. -/
theorem arena_perm (introspect : Introspect) (ids : List String) :
    (arenaOf introspect ids).keys.Perm ((secondPass introspect ids).conversions.keys ++
      (secondPass introspect ids).faults.keys) := by
  rw [List.perm_ext_iff_of_nodup (nodup_arenaOf introspect ids)]
  · intro k
    rw [List.mem_append, converted_iff]
    refine ⟨fun hk => ?_, ?_⟩
    · by_cases hf : k ∈ (secondPass introspect ids).faults.keys
      · exact .inr hf
      · exact .inl ⟨hk, hf⟩
    · rintro (⟨hk, -⟩ | hf)
      · exact hk
      · exact keys_faults_subset hf
  · refine List.nodup_append.2 ⟨nodup_conversions introspect ids, nodup_faults introspect ids, ?_⟩
    rintro k hk _ hf rfl
    exact (converted_iff.1 hk).2 hf

/-! ## What is reported -/

/-- What a run reports of its models. -/
def modelReports (introspect : Introspect) (ids : List String) : List Diagnostic :=
  (failureReports introspect ids).flatMap (finalReport (secondPass introspect ids).conversions)

/-- What is reported of a model, by kind: its failures, its conversion, and the warnings of that. -/
theorem filter_finalReport {k : String} {ds : List Diagnostic}
    (he : (k, ds) ∈ failureReports introspect ids) :
    let report := finalReport (secondPass introspect ids).conversions (k, ds)
    report.filter (·.kind = .failed) = ds ∧
      report.filter (·.kind = .converted) =
        (if k ∈ (secondPass introspect ids).conversions.keys then [Diagnostic.ofConverted k]
          else []) ∧
      report.filter (·.isWarning) = (((secondPass introspect ids).conversions.get? k).map
        (·.resolution.diagnostics)).getD [] := by
  have hds : ∀ d ∈ ds, d.kind = .failed := by
    intro d hd
    obtain ⟨fault, rfl⟩ := ofFault_of_failureReports he hd
    rfl
  have hfailed : ds.filter (·.kind = .failed) = ds :=
    List.filter_eq_self.2 fun d hd => by simp [hds d hd]
  have hnone : ds.filter (·.kind = .converted) = [] ∧ ds.filter (·.isWarning) = [] :=
    ⟨List.filter_eq_nil_iff.2 fun d hd => by simp [hds d hd],
      List.filter_eq_nil_iff.2 fun d hd => by simp [Diagnostic.isWarning, hds d hd]⟩
  unfold finalReport
  cases hc : (secondPass introspect ids).conversions.get? k with
  | none => simp [hfailed, hnone, Keyed.get?_eq_none.1 hc]
  | some c =>
    have hmem := Keyed.mem_of_get? hc
    have hws := fun d hd => (warning_of_conversion (d := d) hmem hd).2
    have hwarnings : c.resolution.diagnostics.filter (·.isWarning) = c.resolution.diagnostics :=
      List.filter_eq_self.2 fun d hd => by
        rcases hws d hd with h | h <;> simp [Diagnostic.isWarning, h]
    have hothers : c.resolution.diagnostics.filter (·.kind = .failed) = [] ∧
        c.resolution.diagnostics.filter (·.kind = .converted) = [] :=
      ⟨List.filter_eq_nil_iff.2 fun d hd => by rcases hws d hd with h | h <;> simp [h],
        List.filter_eq_nil_iff.2 fun d hd => by rcases hws d hd with h | h <;> simp [h]⟩
    have hlast : (Diagnostic.ofConverted k).kind = .converted ∧
        (Diagnostic.ofConverted k).isWarning = false := ⟨rfl, rfl⟩
    simp [List.filter_append, hfailed, hnone, hwarnings, hothers, hlast, Keyed.keys_of_mem hmem]

theorem filter_failed_modelReports (introspect : Introspect) (ids : List String) :
    (modelReports introspect ids).filter (·.kind = .failed) =
      (failureReports introspect ids).flatMap Prod.snd := by
  unfold modelReports
  rw [List.filter_flatMap]
  exact List.flatMap_congr fun e he => (filter_finalReport he).1

theorem countP_failed_modelReports (introspect : Introspect) (ids : List String) :
    (modelReports introspect ids).countP (·.kind = .failed) =
      (gather introspect ids).reported + (secondPass introspect ids).faults.length := by
  rw [List.countP_eq_length_filter, filter_failed_modelReports]
  exact reported_faults (secondPass introspect ids).faults (gather introspect ids)

theorem failures_of (introspect : Introspect) (ids : List String) (k : String) :
    (modelReports introspect ids).filter (fun d => d.kind = .failed ∧ d.model = k) =
      ((failureReports introspect ids).get? k).getD [] := by
  have hown : ∀ e ∈ failureReports introspect ids, ∀ d ∈ e.2, d.model = e.1 := by
    intro e he d hd
    obtain ⟨fault, rfl⟩ := ofFault_of_failureReports he hd
    rfl
  have hsplit : (modelReports introspect ids).filter (fun d => d.kind = .failed ∧ d.model = k) =
      ((modelReports introspect ids).filter (·.kind = .failed)).filter (·.model = k) := by
    rw [List.filter_filter]
    exact List.filter_congr fun d _ => by simp [Bool.and_comm]
  rw [hsplit, filter_failed_modelReports,
    filter_flatMap_entries (nodup_failureReports introspect ids) hown]
  cases (failureReports introspect ids).get? k <;> rfl

theorem filter_converted_modelReports (introspect : Introspect) (ids : List String) :
    (modelReports introspect ids).filter (·.kind = .converted) =
      ((failureReports introspect ids).keys.filter
        (· ∈ (secondPass introspect ids).conversions.keys)).map Diagnostic.ofConverted := by
  unfold modelReports
  rw [List.filter_flatMap, List.flatMap_congr fun e he => (filter_finalReport he).2.1,
    ← List.flatMap_pure_eq_map]
  exact Keyed.flatMap_ite_keys _ _ fun k => [Diagnostic.ofConverted k]

theorem generate_converted (settings : RunSettings) (introspect : Introspect) (ids : List String) :
    (generate settings introspect ids).converted = (failureReports introspect ids).keys.filter
      (· ∈ (secondPass introspect ids).conversions.keys) := by
  have hlast : (connectionPart settings).files.filterMap (·.model) = [] :=
    List.filterMap_eq_nil_iff.2 fun f hf => model_of_connection_file hf
  rw [RunResult.converted, generate_files, List.filterMap_append, hlast, List.append_nil,
    List.filterMap_filterMap, ← List.filterMap_eq_filter]
  refine List.filterMap_congr fun k _ => ?_
  cases hc : (secondPass introspect ids).conversions.get? k with
  | none => simp [Option.guard, Keyed.get?_eq_none.1 hc]
  | some c => simp [Option.guard, Conversion.file, Keyed.keys_of_mem (Keyed.mem_of_get? hc)]

theorem nodup_converted (settings : RunSettings) (introspect : Introspect) (ids : List String) :
    (generate settings introspect ids).converted.Nodup := by
  rw [generate_converted]
  exact (nodup_failureReports introspect ids).filter _

theorem converted_perm (settings : RunSettings) (introspect : Introspect) (ids : List String) :
    (generate settings introspect ids).converted.Perm
      (secondPass introspect ids).conversions.keys := by
  rw [List.perm_ext_iff_of_nodup (nodup_converted settings introspect ids)
    (nodup_conversions introspect ids)]
  intro k
  rw [generate_converted, List.mem_filter, decide_eq_true_eq, and_iff_right_iff_imp]
  exact fun hk => mem_failureReports.2 (.inl (converted_iff.1 hk).1)

/-! ## Warnings come before conversions -/

/-- After every warning comes the conversion of its model. -/
def Announced (ds : List Diagnostic) : Prop :=
  ∀ before d after, ds = before ++ d :: after → d.isWarning = true →
    ∃ c ∈ after, c.kind = .converted ∧ c.model = d.model

theorem Announced.append {l l' : List Diagnostic} (h : Announced l) (h' : Announced l') :
    Announced (l ++ l') := by
  intro before d after he hd
  rcases List.append_eq_append_iff.1 he with ⟨front, rfl, hl'⟩ | ⟨back, rfl, hback⟩
  · exact h' front d after hl' hd
  · cases back with
    | nil => exact h' [] d after hback.symm hd
    | cons x back =>
      obtain ⟨rfl, rfl⟩ := List.cons.inj hback
      obtain ⟨c, hc, hkind⟩ := h before d back rfl hd
      exact ⟨c, List.mem_append_left _ hc, hkind⟩

theorem Announced.flatMap {α : Type} {l : List α} {f : α → List Diagnostic}
    (h : ∀ x ∈ l, Announced (f x)) : Announced (l.flatMap f) := by
  induction l with
  | nil =>
    intro before d after he
    simp at he
  | cons x rest ih =>
    exact (h x List.mem_cons_self).append (ih fun y hy => h y (List.mem_cons_of_mem x hy))

theorem announced_of_forall {l : List Diagnostic} (h : ∀ d ∈ l, d.isWarning = false) :
    Announced l := by
  rintro before d after rfl hd
  rw [h d (by simp)] at hd
  cases hd

/-- A conversion announces all that is reported of its model before. -/
theorem announced_concat {l : List Diagnostic} {c : Diagnostic} (hc : c.kind = .converted)
    (h : ∀ d ∈ l, d.model = c.model) : Announced (l ++ [c]) := by
  intro before d after he hd
  have hne : d ≠ c := by
    rintro rfl
    simp [Diagnostic.isWarning, hc] at hd
  -- The warning is not the last diagnostic, so the last one comes after it.
  have hlast : c ∈ after := by
    cases after using List.reverseRecOn with
    | nil => exact absurd (List.append_singleton_inj.1 he).2.symm hne
    | append_singleton after x =>
      rw [← List.cons_append, ← List.append_assoc, List.append_singleton_inj] at he
      simp [he.2]
  have hd' : d ∈ l ++ [c] := by simp [he]
  rcases List.mem_append.1 hd' with hd' | hd'
  · exact ⟨c, hlast, hc, (h d hd').symm⟩
  · exact absurd (List.mem_singleton.1 hd') hne

theorem announced_finalReport {e : String × List Diagnostic}
    (he : e ∈ failureReports introspect ids) :
    Announced (finalReport (secondPass introspect ids).conversions e) := by
  obtain ⟨k, ds⟩ := e
  have hmodel := fun d hd => model_of_finalReport he (d := d) hd
  unfold finalReport at hmodel ⊢
  cases hc : (secondPass introspect ids).conversions.get? k with
  | none =>
    refine announced_of_forall fun d hd => ?_
    obtain ⟨fault, rfl⟩ := ofFault_of_failureReports he hd
    rfl
  | some c =>
    simp only [hc] at hmodel
    exact announced_concat rfl fun d hd => hmodel d (List.mem_append_left _ hd)

/-! ## The whole run -/

/-- The diagnostics of the models of a run account for its identifiers and files. -/
structure Balances (settings : RunSettings) (introspect : Introspect) (ids : List String)
    (ds : List Diagnostic) : Prop where
  count : ds.countP (·.kind = .converted) + ds.countP (·.kind = .failed) + skipped introspect ids =
    ids.length
  files : ds.countP (·.kind = .converted) =
    (generate settings introspect ids).files.countP (·.model.isSome)
  converted : (ds.filter (·.kind = .converted)).map (·.model) =
    (generate settings introspect ids).converted
  distinct : (generate settings introspect ids).converted.Nodup
  warned : ∀ d ∈ ds, d.isWarning = true → d.model ∈ (generate settings introspect ids).converted
  announced : Announced ds
  /-- The failures of all rounds are of different models. -/
  rounds : (secondPass introspect ids).faults.keys.Nodup
  /-- To what the first pass reports of a model the rounds add one failure at most. -/
  failed : ∀ k, ds.filter (fun d => d.kind = .failed ∧ d.model = k) =
    ((gather introspect ids).reports.get? k).getD [] ++
      (((secondPass introspect ids).faults.get? k).map (Diagnostic.ofFault k)).toList

/-- The outcomes of a run, but for that of the connection, add up. -/
theorem outcomes_balance (settings : RunSettings) (introspect : Introspect) (ids : List String) :
    ∃ ds, (generate settings introspect ids).diagnostics =
        ds ++ (connectionPart settings).diagnostics ∧
      Balances settings introspect ids ds := by
  have hconverted : ((modelReports introspect ids).filter (·.kind = .converted)).map (·.model) =
      (generate settings introspect ids).converted := by
    rw [filter_converted_modelReports, generate_converted, List.map_map]
    exact List.map_id _
  have hcount : (modelReports introspect ids).countP (·.kind = .converted) =
      (generate settings introspect ids).converted.length := by
    rw [← hconverted, List.length_map, List.countP_eq_length_filter]
  have hannounced : Announced (modelReports introspect ids) :=
    Announced.flatMap fun e he => announced_finalReport he
  refine ⟨modelReports introspect ids, generate_diagnostics settings introspect ids, ?_⟩
  constructor
  case count =>
    have harena := (arena_perm introspect ids).length_eq
    have hgather := gather_balance introspect ids
    have hconversions := (converted_perm settings introspect ids).length_eq
    simp only [Keyed.keys, List.length_append, List.length_map] at harena hconversions
    rw [hcount, countP_failed_modelReports]
    omega
  case files => rw [hcount, RunResult.converted, List.length_filterMap_eq_countP]
  case converted => exact hconverted
  case distinct => exact nodup_converted settings introspect ids
  case warned =>
    intro d hd hwarning
    obtain ⟨before, after, hds⟩ := List.append_of_mem hd
    obtain ⟨c, hc, hkind, hmodel⟩ := hannounced before d after hds hwarning
    rw [← hconverted, ← hmodel]
    exact List.mem_map_of_mem (List.mem_filter.2 ⟨by simp [hds, hc], by simp [hkind]⟩)
  case announced => exact hannounced
  case rounds => exact nodup_faults introspect ids
  case failed =>
    intro k
    rw [failures_of, (gather_inv introspect ids).reports, get?_failureReports]

end StructGen
