import StructGen.Proofs.Outcomes
import StructGen.Proofs.RequestOrder
/-!
# Running again on what was converted

`generate_rerun`: a run on the models that another run converted writes the same files, gives the
same warnings, and no model fails in it. What is left of a run are its converted models in order and
their conversions (`generate_files_converted`, `generate_warnings`), and these depend on the
converted schemas only.
-/
namespace StructGen

variable {settings : RunSettings} {introspect : Introspect} {ids : List String}

/-! ## What is left of a run -/

theorem generate_files_converted (settings : RunSettings) (introspect : Introspect)
    (ids : List String) :
    (generate settings introspect ids).files =
      (generate settings introspect ids).converted.filterMap
          (fun k => ((secondPass introspect ids).conversions.get? k).map (·.file settings k)) ++
        (connectionPart settings).files := by
  rw [generate_files, generate_converted, List.filterMap_filter]
  congr 1
  refine List.filterMap_congr fun k _ => ?_
  split
  · rfl
  · next hk =>
    rw [Keyed.get?_eq_none.2 (by simpa using hk), Option.map_none]

/-- The warnings that come with the conversion of a model. -/
def warningsOf (introspect : Introspect) (ids : List String) (k : String) : List Diagnostic :=
  (((secondPass introspect ids).conversions.get? k).map (·.resolution.diagnostics)).getD []

theorem generate_warnings (settings : RunSettings) (introspect : Introspect) (ids : List String) :
    (generate settings introspect ids).warnings =
      (generate settings introspect ids).converted.flatMap (warningsOf introspect ids) ++
        (connectionPart settings).warnings := by
  have hsome : ∀ e ∈ failureReports introspect ids,
      (finalReport (secondPass introspect ids).conversions e).filter (·.isWarning) =
        if e.1 ∈ (secondPass introspect ids).conversions.keys then warningsOf introspect ids e.1
        else [] := by
    intro e he
    rw [(filter_finalReport he).2.2]
    split
    · rfl
    · next hk => rw [Keyed.get?_eq_none.2 hk, Option.map_none, Option.getD_none]
  rw [RunResult.warnings, generate_diagnostics, List.filter_append, List.filter_flatMap,
    List.flatMap_congr hsome, generate_converted]
  exact congrArg (· ++ _) (Keyed.flatMap_ite_keys _ _ _)

theorem mem_converted {k : String} : k ∈ (generate settings introspect ids).converted ↔
    k ∈ (convertedModels introspect ids).map Prod.fst := by
  rw [(converted_perm settings introspect ids).mem_iff]
  exact keys_conversions _ _ k

/-! ## Requests by name -/

/-- Requests that are their models' own names, without repeats, are reported in order. -/
theorem keys_gather (hnodup : ids.Nodup)
    (hname : ∀ k ∈ ids, ∀ m, introspect k = .ok m → m.name = k) :
    (gather introspect ids).reports.keys = ids := by
  induction ids using List.reverseRecOn with
  | nil => rfl
  | append_singleton ids k ih =>
    obtain ⟨hids, -, hnew⟩ := List.nodup_append.1 hnodup
    have hkeys := ih hids fun n hn => hname n (List.mem_append_left _ hn)
    have hfresh : k ∉ (gather introspect ids).reports.keys := by
      rw [hkeys]
      exact fun hk => hnew k hk k (List.mem_singleton_self k) rfl
    have hout : k ∉ (gather introspect ids).arena.keys := fun hk =>
      hfresh (((gather_inv introspect ids).mem_reports k).2 (.inl hk))
    -- Known or not, the answer is reported under `k`.
    have hupdate : ∀ f, ((gather introspect ids).reports.update k [] f).keys = ids ++ [k] := by
      intro f
      rw [Keyed.keys_update, if_neg hfresh, hkeys]
    rw [gather_append_singleton]
    cases hi : introspect k with
    | error fault => exact hupdate _
    | ok m =>
      have hm := hname k (by simp) m hi
      rw [Gathered.step, hm, if_neg (by simpa using hout)]
      split
      · exact hupdate _
      · rw [Gathered.add, hm]
        exact hupdate _

/-! ## The run on the converted models -/

/-- What was converted among more models does not fail. -/
theorem faults_eq_nil_of_converted {kept : List String}
    (h : ∀ e ∈ arenaOf introspect kept, e ∈ convertedModels introspect ids) :
    (secondPass introspect kept).faults = [] := by
  rw [List.eq_nil_iff_forall_not_mem]
  rintro ⟨k, fault⟩ hf
  obtain ⟨m, hm, hfault⟩ := mem_faults.1 hf
  -- `m` was converted in the round of the survivors, and there is no name here that was not there.
  have hfewer : ∀ n ∈ (arenaOf introspect kept).keys,
      n ∈ (convertedModels introspect ids).map Prod.fst := by
    intro n hn
    obtain ⟨t, ht⟩ := Keyed.mem_keys.1 hn
    exact List.mem_map_of_mem (h _ ht)
  obtain ⟨c, hc⟩ := convertModel_fewer hfewer (converted_of_mem_survivors (h _ hm))
  rw [convertModel_eq_error, ← convertModel_eq_error, hc] at hfault
  cases hfault

/-- `kept` are the names of the models that the run on `ids` converts, and lead to their schemas. -/
structure Survive (introspect : Introspect) (ids kept : List String) : Prop where
  names : ∀ k, k ∈ kept ↔ k ∈ (convertedModels introspect ids).map Prod.fst
  leads : ∀ k m, (k, m) ∈ convertedModels introspect ids → introspect k = .ok m

namespace Survive

variable {kept : List String} (h : Survive introspect ids kept)
include h

theorem mem_of_leads {k : String} (hk : k ∈ kept) {m : Model} (hm : introspect k = .ok m) :
    (k, m) ∈ convertedModels introspect ids := by
  obtain ⟨⟨k, t⟩, ht, rfl⟩ := List.mem_map.1 ((h.names k).1 hk)
  rw [h.leads k t ht] at hm
  cases hm
  exact ht

theorem mem_schemas_iff {m : Model} :
    m ∈ schemas introspect kept ↔ (m.name, m) ∈ convertedModels introspect ids := by
  rw [mem_schemas]
  constructor
  · rintro ⟨k, hk, hm⟩
    have hconverted := h.mem_of_leads hk hm
    obtain rfl := (holder_of_converted hconverted).1
    exact hconverted
  · intro hm
    exact ⟨m.name, (h.names _).2 (List.mem_map_of_mem hm), h.leads _ _ hm⟩

/-- Models of one arena have names and struct names of their own. -/
theorem toldApart : ToldApart introspect kept := by
  have hholder : ∀ m ∈ schemas introspect kept, holder? introspect ids (goName m.name) = some m :=
    fun m hm => (holder_of_converted (h.mem_schemas_iff.1 hm)).2
  have hstruct : ∀ m ∈ schemas introspect kept, ∀ t ∈ schemas introspect kept,
      goName m.name = goName t.name → m = t := by
    intro m hm t ht hsame
    have hm' := hholder m hm
    rw [hsame, hholder t ht] at hm'
    exact (Option.some.inj hm').symm
  exact ⟨fun m hm t ht hname => hstruct m hm t ht (congrArg goName hname),
    fun m hm t ht hne hsame => hne (congrArg Model.name (hstruct m hm t ht hsame))⟩

theorem mem_arena_iff {k : String} {m : Model} :
    (k, m) ∈ arenaOf introspect kept ↔ (k, m) ∈ convertedModels introspect ids := by
  rw [mem_arenaOf, h.toldApart.holder_eq_some, h.mem_schemas_iff]
  constructor
  · rintro ⟨rfl, hm, -⟩
    exact hm
  · intro hm
    obtain rfl := (holder_of_converted hm).1
    exact ⟨rfl, hm, rfl⟩

theorem refusals_eq_nil (k : String) : refusals introspect kept k = [] := by
  rw [List.eq_nil_iff_forall_not_mem]
  intro d hd
  obtain ⟨hk, fault, hfault, -⟩ := mem_refusals.1 hd
  obtain ⟨⟨k, m⟩, hm, rfl⟩ := List.mem_map.1 ((h.names k).1 hk)
  have hi := h.leads k m hm
  have hholder := h.toldApart.holder_eq_some.2 ⟨mem_schemas.2 ⟨k, hk, hi⟩, rfl⟩
  simp [refusal?, hi, hholder] at hfault

theorem faults_eq_nil : (secondPass introspect kept).faults = [] :=
  faults_eq_nil_of_converted fun _ he => h.mem_arena_iff.1 he

theorem mem_convertedModels_kept (e : String × Model) :
    e ∈ convertedModels introspect kept ↔ e ∈ convertedModels introspect ids := by
  rw [mem_convertedModels, h.faults_eq_nil, h.mem_arena_iff]
  exact and_iff_left List.not_mem_nil

theorem failures_eq (settings : RunSettings) :
    (generate settings introspect kept).failures = (connectionPart settings).failures := by
  have hnone : (modelReports introspect kept).filter (·.isFailure) = [] := by
    rw [List.filter_eq_nil_iff]
    intro d hd hfails
    have hd' : d ∈ (modelReports introspect kept).filter
        (fun d' => d'.kind = .failed ∧ d'.model = d.model) := by
      rw [List.mem_filter]
      exact ⟨hd, by simpa [Diagnostic.isFailure] using hfails⟩
    rw [failures_of, get?_failureReports, h.refusals_eq_nil, h.faults_eq_nil] at hd'
    cases hd'
  rw [RunResult.failures, generate_diagnostics, List.filter_append, ← modelReports, hnone]
  rfl

theorem conversions_eq (k : String) : (secondPass introspect kept).conversions.get? k =
    (secondPass introspect ids).conversions.get? k :=
  conversions_congr h.mem_convertedModels_kept k

theorem converted_eq (settings : RunSettings) (hnodup : kept.Nodup) :
    (generate settings introspect kept).converted = kept := by
  have hname : ∀ k ∈ kept, ∀ m, introspect k = .ok m → m.name = k := fun k hk m hm =>
    (holder_of_converted (h.mem_of_leads hk hm)).1
  rw [generate_converted, keys_failureReports, keys_gather hnodup hname]
  refine List.filter_eq_self.2 fun k hk => ?_
  obtain ⟨e, he, rfl⟩ := List.mem_map.1 ((h.names k).1 hk)
  rw [decide_eq_true_eq, ← (converted_perm settings introspect kept).mem_iff, mem_converted]
  exact List.mem_map_of_mem ((h.mem_convertedModels_kept e).2 he)

end Survive

/-- `again` has the files and the warnings of `first`, and no failure but that of the connection. -/
structure Repeats (settings : RunSettings) (first again : RunResult) : Prop where
  files : again.files = first.files
  failures : again.failures = (connectionPart settings).failures
  warnings : again.warnings = first.warnings

/-- A run on what another run converted gives the same again, and no model fails in it. -/
theorem generate_rerun (settings : RunSettings)
    (h : ∀ k ∈ (generate settings introspect ids).converted, ∀ m,
      (k, m) ∈ arenaOf introspect ids → introspect k = .ok m) :
    Repeats settings (generate settings introspect ids)
      (generate settings introspect (generate settings introspect ids).converted) := by
  have hsurvive : Survive introspect ids (generate settings introspect ids).converted := by
    refine ⟨fun k => mem_converted, fun k m hm => ?_⟩
    exact h k (mem_converted.2 (List.mem_map_of_mem hm)) m (mem_convertedModels.1 hm).1
  have hconverted := hsurvive.converted_eq settings (nodup_converted settings introspect ids)
  constructor
  case files =>
    rw [generate_files_converted, hconverted, generate_files_converted settings introspect ids]
    simp only [hsurvive.conversions_eq]
  case failures => exact hsurvive.failures_eq settings
  case warnings =>
    have hwarnings : warningsOf introspect (generate settings introspect ids).converted =
        warningsOf introspect ids := by
      funext k
      rw [warningsOf, warningsOf, hsurvive.conversions_eq]
    rw [generate_warnings, hconverted, generate_warnings settings introspect ids, hwarnings]

/-- The orders lose their customers, in both runs. -/
theorem orders_again :
    (generate usualSettings (ordersOf "note")
        ["Order", "Customer", "Guest"]).converted = ["Order"] ∧
      (∀ k ∈ (generate usualSettings (ordersOf "note") ["Order", "Customer", "Guest"]).converted,
        ∀ m, (k, m) ∈ arenaOf (ordersOf "note") ["Order", "Customer", "Guest"] →
          ordersOf "note" k = .ok m) ∧
      Repeats usualSettings
        (generate usualSettings (ordersOf "note") ["Order", "Customer", "Guest"])
        (generate usualSettings (ordersOf "note")
          (generate usualSettings (ordersOf "note") ["Order", "Customer", "Guest"]).converted) := by
  have hself : ∀ id m, ordersOf "note" id = .ok m → m.name = id := by
    intro id m hm
    unfold ordersOf at hm
    split at hm
    · next hid =>
      cases hm
      exact hid.symm
    · split at hm
      · next hid =>
        cases hm
        exact hid.symm
      · cases hm
  have hleads : ∀ k ∈ (generate usualSettings (ordersOf "note")
      ["Order", "Customer", "Guest"]).converted,
      ∀ m, (k, m) ∈ arenaOf (ordersOf "note") ["Order", "Customer", "Guest"] →
        ordersOf "note" k = .ok m := by
    intro k _ m hm
    obtain ⟨rfl, hholder⟩ := mem_arenaOf.1 hm
    obtain ⟨id, -, hid⟩ := mem_schemas.1 (List.mem_of_find?_eq_some hholder)
    obtain rfl := hself id m hid
    exact hid
  exact ⟨by decide +kernel, hleads, generate_rerun usualSettings hleads⟩

end StructGen
