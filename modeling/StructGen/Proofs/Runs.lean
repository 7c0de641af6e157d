import StructGen.Text.Blank
/-!
# Runs of a text

`runs_eq_filter`: the runs of a text are what stands between its separators, less what is empty. So
a text is cut at each separator (`runs_append_cons`), one without separators is one run, and runs
that are joined by a separator are found again (`runs_intercalate`).
-/
namespace StructGen.Text

variable {sep : Char → Bool}

/-- The runs of a text are what is between its separators, less what is empty. -/
theorem runs_eq_filter (sep : Char → Bool) (s : List Char) :
    runs sep s = (s.splitOnP sep).filter (· ≠ []) := by
  induction s with
  | nil => simp [runs]
  | cons c rest ih =>
    unfold runs
    rw [List.splitOnP_cons_eq_if_modifyHead]
    by_cases hc : sep c = true
    · rw [if_pos hc, if_pos hc, ih]
      simp
    · rw [if_neg hc, if_neg hc, ih]
      cases rest with
      | nil => simp
      | cons d rest =>
        rw [List.splitOnP_cons_eq_if_modifyHead]
        by_cases hd : sep d = true
        · rw [if_pos hd, List.filter_cons_of_neg (by simp), List.modifyHead_cons,
            List.filter_cons_of_pos (by simp)]
          cases (rest.splitOnP sep).filter (· ≠ []) <;> simp [hd]
        · obtain ⟨w, ws, hws⟩ := List.exists_cons_of_ne_nil (List.splitOnP_ne_nil sep rest)
          simp [hd, hws]

/-- A text is cut at each separator. -/
theorem runs_append_cons {c : Char} (hc : sep c = true) (s t : List Char) :
    runs sep (s ++ c :: t) = runs sep s ++ runs sep t := by
  rw [runs_eq_filter, List.splitOnP_append_cons s t hc, List.filter_append, ← runs_eq_filter,
    ← runs_eq_filter]

/-- A text without separators is one run. -/
theorem runs_of_forall {s : List Char} (h : ∀ c ∈ s, sep c = false) (hne : s ≠ []) :
    runs sep s = [s] := by
  rw [runs_eq_filter, List.splitOnP_eq_singleton fun c hc => by simp [h c hc]]
  simp [hne]

/-- Runs that are joined by a separator are the runs again. -/
theorem runs_intercalate {c : Char} (hc : sep c = true) {rs : List (List Char)}
    (hrs : ∀ r ∈ rs, r ≠ [] ∧ ∀ x ∈ r, sep x = false) : runs sep ([c].intercalate rs) = rs := by
  induction rs with
  | nil => simp [runs]
  | cons r rs ih =>
    have hr : runs sep r = [r] :=
      runs_of_forall (hrs r List.mem_cons_self).2 (hrs r List.mem_cons_self).1
    have hrest := ih fun s hs => hrs s (List.mem_cons_of_mem r hs)
    cases rs with
    | nil => rw [List.intercalate_singleton, hr]
    | cons s rs =>
      rw [List.intercalate_cons_cons, List.append_assoc, List.singleton_append,
        runs_append_cons hc, hr, hrest]
      rfl

/-- A run holds no separators. -/
theorem not_sep_of_mem_runs {s run : List Char} (hr : run ∈ runs sep s) :
    ∀ c ∈ run, sep c = false := by
  induction s generalizing run with
  | nil => simp [runs] at hr
  | cons c rest ih =>
    unfold runs at hr
    split at hr
    · exact ih hr
    · next hc =>
      simp only [Bool.not_eq_true] at hc
      split at hr
      · next d _ w ws hruns =>
        rw [hruns] at ih
        split at hr
        · rcases List.mem_cons.1 hr with rfl | hr
          · simpa using hc
          · exact ih hr
        · rcases List.mem_cons.1 hr with rfl | hr
          · intro x hx
            rcases List.mem_cons.1 hx with rfl | hx
            · exact hc
            · exact ih List.mem_cons_self x hx
          · exact ih (List.mem_cons_of_mem _ hr)
      · rcases List.mem_cons.1 hr with rfl | hr
        · simpa using hc
        · exact ih hr

end StructGen.Text
