import Mathlib.Data.Option.Basic
import StructGen.Proofs.FirstPass
import StructGen.Proofs.SecondPass
import StructGen.Run
/-!
# What a run reports and writes

`report_of`: the diagnostics of a name are the refusals of the identifier of that name, then what
the second pass comes to for the model of that name, then what is said of the connection.
`files_perm`: the files of a run are those of its conversions and that of the connection.
-/
namespace StructGen

variable {settings : RunSettings} {introspect : Introspect} {ids : List String}

/-! ## The passes of a run -/

/-- The schemas that the second pass of a run starts from. -/
def arenaOf (introspect : Introspect) (ids : List String) : Keyed Model :=
  (gather introspect ids).arena

/-- The second pass of a run. -/
def secondPass (introspect : Introspect) (ids : List String) : Converted :=
  convert (arenaOf introspect ids) (arenaOf introspect ids)

/-- The models that a run converts, with their schemas. -/
def convertedModels (introspect : Introspect) (ids : List String) : List (String × Model) :=
  survivors (arenaOf introspect ids) (arenaOf introspect ids)

theorem mem_arenaOf {k : String} {m : Model} : (k, m) ∈ arenaOf introspect ids ↔
    m.name = k ∧ holder? introspect ids (goName k) = some m :=
  (gather_inv introspect ids).mem_arena k m

theorem nodup_arenaOf (introspect : Introspect) (ids : List String) :
    (arenaOf introspect ids).keys.Nodup :=
  (gather_inv introspect ids).arena_keys

theorem mem_convertedModels {k : String} {m : Model} : (k, m) ∈ convertedModels introspect ids ↔
    (k, m) ∈ arenaOf introspect ids ∧ k ∉ (secondPass introspect ids).faults.keys := by
  rw [secondPass, convert_eq]
  exact mem_survivors

/-- A converted model stands under its name and holds its struct name. -/
theorem holder_of_converted {k : String} {m : Model} (h : (k, m) ∈ convertedModels introspect ids) :
    m.name = k ∧ holder? introspect ids (goName k) = some m :=
  mem_arenaOf.1 (mem_convertedModels.1 h).1

theorem nodup_convertedModels (introspect : Introspect) (ids : List String) :
    ((convertedModels introspect ids).map Prod.fst).Nodup :=
  ((survivors_sublist _ _).map Prod.fst).nodup (nodup_arenaOf introspect ids)

theorem mem_conversions {k : String} {c : Conversion} :
    (k, c) ∈ (secondPass introspect ids).conversions ↔
      ∃ m, (k, m) ∈ convertedModels introspect ids ∧ convertModel (arenaOf introspect ids)
        ((convertedModels introspect ids).map Prod.fst) m = .ok c := by
  rw [secondPass, convert_eq]
  exact mem_convertedIn

/-- The scope that the written models are resolved in: the converted ones. -/
def finalScope (introspect : Introspect) (ids : List String) : Scope where
  requested := (convertedModels introspect ids).map Prod.fst
  arena := some (arenaOf introspect ids)

/-- A conversion is that of a schema of the arena, with the links it has among the converted. -/
theorem conversion_spec {k : String} {c : Conversion}
    (hc : (k, c) ∈ (secondPass introspect ids).conversions) :
    ∃ m columns, (k, m) ∈ convertedModels introspect ids ∧ m.name = k ∧
      c.spec = m.struct columns c.resolution.links ∧ columns.length = m.columns.length ∧
      c.resolution = (finalScope introspect ids).resolve m := by
  obtain ⟨m, hm, hconv⟩ := mem_conversions.1 hc
  obtain ⟨columns, hcheck, hspec, hres⟩ := convertModel_eq_ok.1 hconv
  exact ⟨m, columns, hm, (holder_of_converted hm).1, hspec, Model.length_of_check hcheck, hres⟩

theorem mem_faults {k : String} {fault : Fault} :
    (k, fault) ∈ (secondPass introspect ids).faults ↔
      ∃ m, (k, m) ∈ arenaOf introspect ids ∧
        convertModel (arenaOf introspect ids) (arenaOf introspect ids).keys m = .error fault := by
  rw [secondPass, convert_eq]
  exact mem_failedIn

theorem nodup_conversions (introspect : Introspect) (ids : List String) :
    (secondPass introspect ids).conversions.keys.Nodup := by
  rw [secondPass, convert_eq]
  exact (keys_convertedIn_sublist _ _).nodup (nodup_convertedModels introspect ids)

theorem nodup_faults (introspect : Introspect) (ids : List String) :
    (secondPass introspect ids).faults.keys.Nodup := by
  rw [secondPass, convert_eq]
  exact (keys_failedIn_sublist _ _).nodup (nodup_arenaOf introspect ids)

theorem keys_faults_subset {k : String} (h : k ∈ (secondPass introspect ids).faults.keys) :
    k ∈ (arenaOf introspect ids).keys := by
  obtain ⟨fault, hf⟩ := Keyed.mem_keys.1 h
  obtain ⟨m, hm, -⟩ := mem_faults.1 hf
  exact Keyed.keys_of_mem hm

/-- A model of the arena is converted or fails, and never both. -/
theorem converted_iff {k : String} : k ∈ (secondPass introspect ids).conversions.keys ↔
    k ∈ (arenaOf introspect ids).keys ∧ k ∉ (secondPass introspect ids).faults.keys := by
  rw [secondPass, keys_conversions, ← secondPass, List.mem_map]
  constructor
  · rintro ⟨⟨n, m⟩, hm, rfl⟩
    obtain ⟨hm, hk⟩ := mem_convertedModels.1 hm
    exact ⟨Keyed.keys_of_mem hm, hk⟩
  · rintro ⟨hk, hnf⟩
    obtain ⟨m, hm⟩ := Keyed.mem_keys.1 hk
    exact ⟨(k, m), mem_convertedModels.2 ⟨hm, hnf⟩, rfl⟩

/-! ## Reports by name -/

/-- What the second pass reports of a model. -/
def outcome (c : Converted) (k : String) : List Diagnostic :=
  match c.faults.get? k, c.conversions.get? k with
  | some fault, _ => [Diagnostic.ofFault k fault]
  | none, some v => v.resolution.diagnostics ++ [Diagnostic.ofConverted k]
  | none, none => []

/-- The reports after the faults of the second pass have been added. -/
theorem report_faults {faults : Keyed Fault} (hn : faults.keys.Nodup) (g : Gathered)
    (hknown : ∀ k ∈ faults.keys, k ∈ g.reports.keys) :
    let g' := faults.foldl (fun g f => g.report (Diagnostic.ofFault f.1 f.2)) g
    g'.reports.keys = g.reports.keys ∧
      ∀ k, (g'.reports.get? k).getD [] =
        (g.reports.get? k).getD [] ++ ((faults.get? k).map (Diagnostic.ofFault k)).toList := by
  induction faults generalizing g with
  | nil => simp
  | cons f rest ih =>
    obtain ⟨n, fault⟩ := f
    obtain ⟨hnew, hrest⟩ := List.nodup_cons.1 hn
    -- A fault is reported under a name that has an entry, so the keys stay.
    have hkeys : (g.report (Diagnostic.ofFault n fault)).reports.keys = g.reports.keys := by
      simp only [Gathered.report, Diagnostic.ofFault, Keyed.keys_update]
      rw [if_pos (hknown n (by simp))]
    have hget : ∀ k, ((g.report (Diagnostic.ofFault n fault)).reports.get? k).getD [] =
        (g.reports.get? k).getD [] ++ if k = n then [Diagnostic.ofFault n fault] else [] := by
      intro k
      simp only [Gathered.report, Keyed.get?_update]
      by_cases hk : k = n
      · subst hk
        simp [Diagnostic.ofFault]
      · simp [hk, Diagnostic.ofFault]
    obtain ⟨ihkeys, ihget⟩ := ih hrest (g.report (Diagnostic.ofFault n fault))
      (fun k hk => hkeys ▸ hknown k (by simp [hk]))
    refine ⟨ihkeys.trans hkeys, fun k => ?_⟩
    rw [List.foldl_cons, ihget, hget]
    by_cases hk : k = n
    · subst hk
      simp [Keyed.get?_eq_none.2 hnew]
    · simp [hk]

/-- Of entries that each speak of their own key, the part about one key is its entry. -/
theorem filter_flatMap_entries {α : Type} {l : Keyed α} (hn : l.keys.Nodup)
    {report : String × α → List Diagnostic} (hown : ∀ e ∈ l, ∀ d ∈ report e, d.model = e.1)
    (k : String) :
    (l.flatMap report).filter (·.model = k) =
      match l.get? k with
      | some v => report (k, v)
      | none => [] := by
  induction l with
  | nil => simp
  | cons e rest ih =>
    obtain ⟨hnew, hrest⟩ := List.nodup_cons.1 hn
    have hhead := hown e List.mem_cons_self
    rw [List.flatMap_cons, List.filter_append,
      ih hrest (fun e he => hown e (List.mem_cons_of_mem _ he)), Keyed.get?_cons]
    by_cases hk : k = e.1
    · subst hk
      have hall : (report e).filter (·.model = e.1) = report e :=
        List.filter_eq_self.2 fun d hd => by simpa using hhead d hd
      simp [hall, Keyed.get?_eq_none.2 hnew]
    · have hnone : (report e).filter (·.model = k) = [] :=
        List.filter_eq_nil_iff.2 fun d hd => by simpa [hhead d hd] using Ne.symm hk
      simp [hnone, hk]

/-- The reports of a run by name, without what is said of conversions. -/
def failureReports (introspect : Introspect) (ids : List String) : Keyed (List Diagnostic) :=
  ((secondPass introspect ids).faults.foldl
    (fun g f => g.report (Diagnostic.ofFault f.1 f.2)) (gather introspect ids)).reports

theorem generate_diagnostics (settings : RunSettings) (introspect : Introspect) (ids : List String) :
    (generate settings introspect ids).diagnostics =
      (failureReports introspect ids).flatMap (finalReport (secondPass introspect ids).conversions) ++
        (connectionPart settings).diagnostics := rfl

theorem keys_failureReports (introspect : Introspect) (ids : List String) :
    (failureReports introspect ids).keys = (gather introspect ids).reports.keys :=
  (report_faults (nodup_faults introspect ids) _ fun _ hk =>
    ((gather_inv introspect ids).mem_reports _).2 (.inl (keys_faults_subset hk))).1

theorem nodup_failureReports (introspect : Introspect) (ids : List String) :
    (failureReports introspect ids).keys.Nodup := by
  rw [keys_failureReports]
  exact (gather_inv introspect ids).report_keys

theorem mem_failureReports {k : String} : k ∈ (failureReports introspect ids).keys ↔
    k ∈ (arenaOf introspect ids).keys ∨ refusals introspect ids k ≠ [] := by
  rw [keys_failureReports]
  exact (gather_inv introspect ids).mem_reports k

theorem get?_failureReports (introspect : Introspect) (ids : List String) (k : String) :
    ((failureReports introspect ids).get? k).getD [] = refusals introspect ids k ++
      (((secondPass introspect ids).faults.get? k).map (Diagnostic.ofFault k)).toList := by
  rw [← (gather_inv introspect ids).reports]
  exact (report_faults (nodup_faults introspect ids) _ fun _ hk =>
    ((gather_inv introspect ids).mem_reports _).2 (.inl (keys_faults_subset hk))).2 k

/-- What is reported of a name, but for its conversion, are failures. -/
theorem ofFault_of_failureReports {k : String} {ds : List Diagnostic}
    (h : (k, ds) ∈ failureReports introspect ids) {d : Diagnostic} (hd : d ∈ ds) :
    ∃ fault, d = Diagnostic.ofFault k fault := by
  have hget := get?_failureReports introspect ids k
  rw [(Keyed.get?_eq_some (nodup_failureReports introspect ids)).2 h, Option.getD_some] at hget
  rw [hget, List.mem_append] at hd
  rcases hd with hd | hd
  · obtain ⟨-, fault, -, rfl⟩ := mem_refusals.1 hd
    exact ⟨fault, rfl⟩
  · cases hf : (secondPass introspect ids).faults.get? k with
    | none => simp [hf] at hd
    | some fault =>
      simp only [hf, Option.map_some, Option.toList_some, List.mem_singleton] at hd
      exact ⟨fault, hd⟩

theorem Scope.warning_of_resolve {scope : Scope} {m : Model} {d : Diagnostic}
    (h : d ∈ (scope.resolve m).diagnostics) :
    d.model = m.name ∧ (d.kind = .duplicate ∨ d.kind = .missingTarget) := by
  simp only [Scope.resolve, List.mem_append, List.mem_map] at h
  rcases h with ⟨_, -, rfl⟩ | ⟨_, -, rfl⟩
  · exact ⟨rfl, .inl rfl⟩
  · exact ⟨rfl, .inr rfl⟩

/-- A conversion reports warnings of its own model only. -/
theorem warning_of_conversion {k : String} {c : Conversion} {d : Diagnostic}
    (hc : (k, c) ∈ (secondPass introspect ids).conversions) (hd : d ∈ c.resolution.diagnostics) :
    d.model = k ∧ (d.kind = .duplicate ∨ d.kind = .missingTarget) := by
  obtain ⟨m, _, -, rfl, -, -, hres⟩ := conversion_spec hc
  rw [hres] at hd
  exact Scope.warning_of_resolve hd

theorem model_of_finalReport {e : String × List Diagnostic} (he : e ∈ failureReports introspect ids)
    {d : Diagnostic} (hd : d ∈ finalReport (secondPass introspect ids).conversions e) :
    d.model = e.1 := by
  obtain ⟨k, ds⟩ := e
  have hds : ∀ d ∈ ds, d.model = k := by
    intro d hd
    obtain ⟨fault, rfl⟩ := ofFault_of_failureReports he hd
    rfl
  unfold finalReport at hd
  split at hd
  · next c hc =>
    simp only [List.mem_append, List.mem_singleton] at hd
    rcases hd with (hd | hd) | rfl
    · exact hds d hd
    · exact (warning_of_conversion (Keyed.mem_of_get? hc) hd).1
    · rfl
  · exact hds d hd

/-- The diagnostics of a name. -/
theorem report_of (settings : RunSettings) (introspect : Introspect) (ids : List String) (k : String) :
    (generate settings introspect ids).diagnostics.filter (·.model = k) =
      refusals introspect ids k ++ outcome (secondPass introspect ids) k ++
        (connectionPart settings).diagnostics.filter (·.model = k) := by
  rw [generate_diagnostics, List.filter_append,
    filter_flatMap_entries (nodup_failureReports introspect ids) fun e he d => model_of_finalReport he]
  congr 1
  have hget := get?_failureReports introspect ids k
  have hcases : k ∈ (secondPass introspect ids).conversions.keys ↔
      k ∈ (arenaOf introspect ids).keys ∧ k ∉ (secondPass introspect ids).faults.keys := converted_iff
  cases hr : (failureReports introspect ids).get? k with
  | none =>
    -- What has no entry was not refused and is not in the arena, so the second pass is silent too.
    have hout := Keyed.get?_eq_none.1 hr
    rw [mem_failureReports] at hout
    simp only [not_or, not_not] at hout
    have hnf : k ∉ (secondPass introspect ids).faults.keys := fun h => hout.1 (keys_faults_subset h)
    have hnc : k ∉ (secondPass introspect ids).conversions.keys := fun h => hout.1 (hcases.1 h).1
    simp [hout.2, outcome, Keyed.get?_eq_none.2 hnf, Keyed.get?_eq_none.2 hnc]
  | some ds =>
    rw [hr, Option.getD_some] at hget
    simp only [finalReport, outcome, hget]
    cases hc : (secondPass introspect ids).conversions.get? k with
    | none => cases (secondPass introspect ids).faults.get? k <;> simp
    | some c =>
      have hnf := (hcases.1 (Keyed.keys_of_mem (Keyed.mem_of_get? hc))).2
      simp [Keyed.get?_eq_none.2 hnf]

theorem mem_diagnostics {d : Diagnostic} : d ∈ (generate settings introspect ids).diagnostics ↔
    d ∈ refusals introspect ids d.model ++ outcome (secondPass introspect ids) d.model ++
      (connectionPart settings).diagnostics.filter (·.model = d.model) := by
  rw [← report_of settings introspect ids d.model, List.mem_filter]
  simp

/-! ## Files -/

/-- The file of a conversion. -/
def Conversion.file (c : Conversion) (settings : RunSettings) (model : String) : GeneratedFile where
  path := settings.layout.modelPath model
  content := c.spec.render settings.package
  model := some model

theorem generate_files (settings : RunSettings) (introspect : Introspect) (ids : List String) :
    (generate settings introspect ids).files =
      (failureReports introspect ids).keys.filterMap
          (fun k => ((secondPass introspect ids).conversions.get? k).map (·.file settings k)) ++
        (connectionPart settings).files := rfl

theorem nodup_conversion_files (settings : RunSettings) (introspect : Introspect) (ids : List String) :
    ((secondPass introspect ids).conversions.map (fun e => e.2.file settings e.1)).Nodup := by
  refine List.Nodup.of_map (·.model) ?_
  have hkeys : ((secondPass introspect ids).conversions.map (fun e => e.2.file settings e.1)).map
      (·.model) = (secondPass introspect ids).conversions.keys.map some := by
    simp [Keyed.keys, Conversion.file]
  rw [hkeys]
  exact (nodup_conversions introspect ids).map (Option.some_injective _)

/-- The files of a run are those of its conversions and that of the connection. -/
theorem files_perm (settings : RunSettings) (introspect : Introspect) (ids : List String) :
    (generate settings introspect ids).files.Perm
      ((secondPass introspect ids).conversions.map (fun e => e.2.file settings e.1) ++
        (connectionPart settings).files) := by
  rw [generate_files]
  refine List.Perm.append_right _ ?_
  rw [List.perm_ext_iff_of_nodup]
  · intro f
    simp only [List.mem_filterMap, Option.map_eq_some_iff, List.mem_map, Prod.exists]
    constructor
    · rintro ⟨k, -, c, hc, rfl⟩
      exact ⟨k, c, Keyed.mem_of_get? hc, rfl⟩
    · rintro ⟨k, c, hc, rfl⟩
      have hk := (converted_iff.1 (Keyed.keys_of_mem hc)).1
      exact ⟨k, mem_failureReports.2 (.inl hk), c,
        (Keyed.get?_eq_some (nodup_conversions introspect ids)).2 hc, rfl⟩
  · refine List.Nodup.filterMap (fun k k' f hf hf' => ?_) (nodup_failureReports introspect ids)
    obtain ⟨c, -, rfl⟩ := Option.map_eq_some_iff.1 hf
    obtain ⟨c', -, he⟩ := Option.map_eq_some_iff.1 hf'
    simpa [Conversion.file] using (congrArg GeneratedFile.model he).symm
  · exact nodup_conversion_files settings introspect ids

/-- The connection file belongs to no model. -/
theorem model_of_connection_file {f : GeneratedFile} (h : f ∈ (connectionPart settings).files) :
    f.model = none := by
  unfold connectionPart at h
  split at h
  · cases h
  · split at h
    · rw [List.mem_singleton.1 h]
    · cases h

/-- A run writes no file twice. -/
theorem nodup_files (settings : RunSettings) (introspect : Introspect) (ids : List String) :
    (generate settings introspect ids).files.Nodup := by
  rw [(files_perm settings introspect ids).nodup_iff]
  refine List.nodup_append.2 ⟨nodup_conversion_files settings introspect ids, ?_, ?_⟩
  · unfold connectionPart
    split
    · exact List.nodup_nil
    · split
      · exact List.nodup_singleton _
      · exact List.nodup_nil
  · rintro f hf g hg rfl
    obtain ⟨e, -, rfl⟩ := List.mem_map.1 hf
    have hnone := model_of_connection_file hg
    cases hnone

/-- A run writes the file `f` of the model `k`, and it shows the conversion `c`. -/
structure Writes (settings : RunSettings) (introspect : Introspect) (ids : List String)
    (f : GeneratedFile) (k : String) (c : Conversion) : Prop where
  written : f ∈ (generate settings introspect ids).files
  converted : (k, c) ∈ (secondPass introspect ids).conversions
  shows : f = c.file settings k

theorem writes_of_converted {k : String} {c : Conversion}
    (hc : (k, c) ∈ (secondPass introspect ids).conversions) :
    Writes settings introspect ids (c.file settings k) k c := by
  refine ⟨(files_perm settings introspect ids).mem_iff.2 ?_, hc, rfl⟩
  exact List.mem_append_left _ (List.mem_map.2 ⟨(k, c), hc, rfl⟩)

/-- Every file of a model shows a conversion of that model. -/
theorem writes_of_model {f : GeneratedFile} (hf : f ∈ (generate settings introspect ids).files)
    {k : String} (hk : f.model = some k) : ∃ c, Writes settings introspect ids f k c := by
  have hf' := (files_perm settings introspect ids).mem_iff.1 hf
  rcases List.mem_append.1 hf' with h | h
  · obtain ⟨⟨n, c⟩, hc, rfl⟩ := List.mem_map.1 h
    obtain rfl := Option.some.inj hk
    exact ⟨c, hf, hc, rfl⟩
  · rw [model_of_connection_file h] at hk
    cases hk

/-- The settings of a run into the usual package, without a connection. -/
def usualSettings : RunSettings where
  package := ⟨"models", by decide +kernel⟩

end StructGen
