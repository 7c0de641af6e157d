import StructGen.Proofs.Isolation
/-!
# Rounds of the second pass

The second pass is a loop: a round resolves and synthesizes the available models among each other,
records the faults and leaves out the models that failed, until none does (`LoopRuns`).
`second_pass_rounds`: the loop ends after two rounds at most. A model that is converted in the first
round can be converted among fewer models too, so the second round records nothing, and each failure
that the second pass reports is recorded in the first.
-/
namespace StructGen

/-! ## The loop -/

/-- The loop, started on the available models, records these faults from round to round and ends
with these conversions. -/
inductive LoopRuns (arena : Keyed Model) :
    List (String × Model) → List (Keyed Fault) → Keyed Conversion → Prop
  | ends {available : List (String × Model)} (h : failedIn arena available = []) :
      LoopRuns arena available [[]] (convertedIn arena available)
  | again {available : List (String × Model)} {recorded : List (Keyed Fault)}
      {conversions : Keyed Conversion} (h : failedIn arena available ≠ [])
      (rest : LoopRuns arena (standing (failedIn arena available) available) recorded conversions) :
      LoopRuns arena available (failedIn arena available :: recorded) conversions

namespace LoopRuns

variable {arena : Keyed Model} {available : List (String × Model)} {recorded : List (Keyed Fault)}
  {conversions : Keyed Conversion}

/-- What the loop ends with is what the recursion comes to. -/
theorem convert_eq (h : LoopRuns arena available recorded conversions) :
    convert arena available = { conversions, faults := recorded.flatten } := by
  induction h with
  | ends h =>
    rw [convert]
    simp [h]
  | again h _ ih =>
    rw [convert, dif_neg h]
    simp [ih]

/-- The faults that the rounds record: those of the first round, and then none. -/
def recordedFrom (arena : Keyed Model) (available : List (String × Model)) : List (Keyed Fault) :=
  if failedIn arena available = [] then [[]] else [failedIn arena available, []]

/-- The loop ends: where models fail, the survivors are converted in a second round. -/
theorem exists_run (arena : Keyed Model) (available : List (String × Model)) :
    ∃ conversions, LoopRuns arena available (recordedFrom arena available) conversions := by
  have hsecond := failedIn_survivors arena available
  unfold recordedFrom
  split
  · next h => exact ⟨_, .ends h⟩
  · next h => exact ⟨_, .again h (.ends hsecond)⟩

/-- No round but the first records a fault. -/
theorem recorded_eq (h : LoopRuns arena available recorded conversions) :
    recorded = recordedFrom arena available := by
  unfold recordedFrom
  cases h with
  | ends h => rw [if_pos h]
  | again h rest =>
    rw [if_neg h]
    cases rest with
    | ends _ => rfl
    | again hsecond _ => exact absurd (failedIn_survivors arena available) hsecond

/-- The loop ends in one way only. -/
theorem unique {recorded' : List (Keyed Fault)} {conversions' : Keyed Conversion}
    (h : LoopRuns arena available recorded conversions)
    (h' : LoopRuns arena available recorded' conversions') :
    recorded' = recorded ∧ conversions' = conversions := by
  refine ⟨h'.recorded_eq.trans h.recorded_eq.symm, ?_⟩
  have hsame := h'.convert_eq.symm.trans h.convert_eq
  exact congrArg Converted.conversions hsame

theorem length_recordedFrom (arena : Keyed Model) (available : List (String × Model)) :
    (recordedFrom arena available).length ≤ 2 := by
  unfold recordedFrom
  split <;> simp

theorem recordedFrom_eq (arena : Keyed Model) (available : List (String × Model)) :
    ∃ later, recordedFrom arena available = failedIn arena available :: later ∧
      ∀ faults ∈ later, faults = [] := by
  unfold recordedFrom
  split
  · next h => exact ⟨[], by rw [h], by simp⟩
  · exact ⟨[[]], rfl, by simp⟩

end LoopRuns

/-! ## The failures of a run -/

variable {introspect : Introspect} {ids : List String}

theorem isFailure_of_connection {settings : RunSettings} {d : Diagnostic}
    (h : d ∈ (connectionPart settings).diagnostics) : d.isFailure = true := by
  unfold connectionPart at h
  split at h
  · cases h
  · split at h
    · cases h
    · rw [List.mem_singleton.1 h]
      rfl

/-- The failures that a run reports of a model: those of the first pass, that of the first round,
and what is said of the connection. -/
theorem failures_eq_first_round (settings : RunSettings) (introspect : Introspect)
    (ids : List String) (k : String) :
    ((generate settings introspect ids).diagnostics.filter (·.model = k)).filter (·.isFailure) =
      refusals introspect ids k ++
        (((failedIn (arenaOf introspect ids) (arenaOf introspect ids)).get? k).map
          (Diagnostic.ofFault k)).toList ++
        (connectionPart settings).diagnostics.filter (·.model = k) := by
  have hfaults : (secondPass introspect ids).faults =
      failedIn (arenaOf introspect ids) (arenaOf introspect ids) := by
    rw [secondPass, convert_eq]
  rw [report_of, List.filter_append, List.filter_append, filter_isFailure_outcome, hfaults]
  congr 1
  · congr 1
    exact List.filter_eq_self.2 fun d => isFailure_of_refusal
  · exact List.filter_eq_self.2 fun d hd => isFailure_of_connection (List.mem_of_mem_filter hd)

/-- The loop of the second pass ends, in one way only, after two rounds at most, and comes to what
the second pass comes to. It records the faults of its first round and none later, since a model
that is converted in that round is converted among any of the available models. So the failures that
a run reports of a model are those of the first pass, of the first round and of the connection. -/
theorem second_pass_rounds (settings : RunSettings) (introspect : Introspect) (ids : List String) :
    (∃ recorded conversions,
        LoopRuns (arenaOf introspect ids) (arenaOf introspect ids) recorded conversions ∧
          (∀ recorded' conversions',
            LoopRuns (arenaOf introspect ids) (arenaOf introspect ids) recorded' conversions' →
              recorded' = recorded ∧ conversions' = conversions) ∧
          secondPass introspect ids = { conversions, faults := recorded.flatten } ∧
          recorded.length ≤ 2 ∧
          ∃ later, recorded =
              failedIn (arenaOf introspect ids) (arenaOf introspect ids) :: later ∧
            ∀ faults ∈ later, faults = []) ∧
      (∀ e ∈ arenaOf introspect ids, ∀ c,
        convertModel (arenaOf introspect ids) (arenaOf introspect ids).keys e.2 = .ok c →
          ∀ names ⊆ (arenaOf introspect ids).keys,
            ∃ c', convertModel (arenaOf introspect ids) names e.2 = .ok c') ∧
      ∀ k, ((generate settings introspect ids).diagnostics.filter (·.model = k)).filter
            (·.isFailure) =
          refusals introspect ids k ++
            (((failedIn (arenaOf introspect ids) (arenaOf introspect ids)).get? k).map
              (Diagnostic.ofFault k)).toList ++
            (connectionPart settings).diagnostics.filter (·.model = k) := by
  refine ⟨?_, fun e _ c hc names hnames => ?_, failures_eq_first_round settings introspect ids⟩
  · obtain ⟨conversions, hrun⟩ :=
      LoopRuns.exists_run (arenaOf introspect ids) (arenaOf introspect ids)
    exact ⟨_, conversions, hrun, fun _ _ => hrun.unique, hrun.convert_eq,
      LoopRuns.length_recordedFrom _ _, LoopRuns.recordedFrom_eq _ _⟩
  · exact convertModel_fewer (fun n hn => hnames hn) ⟨c, hc⟩

/-- A customer without a key fails in the first round and costs a second one. -/
theorem customer_costs_round :
    ∃ recorded conversions,
      LoopRuns (arenaOf (ordersOf "note") ["Order", "Customer"])
          (arenaOf (ordersOf "note") ["Order", "Customer"]) recorded conversions ∧
        recorded.map Keyed.keys = [["Customer"], []] ∧ conversions.keys = ["Order"] := by
  obtain ⟨⟨recorded, conversions, hrun, -, hpass, -⟩, -⟩ :=
    second_pass_rounds usualSettings (ordersOf "note") ["Order", "Customer"]
  have hfailed : (failedIn (arenaOf (ordersOf "note") ["Order", "Customer"])
      (arenaOf (ordersOf "note") ["Order", "Customer"])).keys = ["Customer"] := by decide +kernel
  have hconverted : (secondPass (ordersOf "note") ["Order", "Customer"]).conversions.keys =
      ["Order"] := by decide +kernel
  refine ⟨recorded, conversions, hrun, ?_, by rw [hpass] at hconverted; exact hconverted⟩
  have hsome : failedIn (arenaOf (ordersOf "note") ["Order", "Customer"])
      (arenaOf (ordersOf "note") ["Order", "Customer"]) ≠ [] := by
    intro hnone
    rw [hnone] at hfailed
    cases hfailed
  rw [hrun.recorded_eq, LoopRuns.recordedFrom, if_neg hsome, List.map_cons, hfailed]
  rfl

end StructGen
