import StructGen.Proofs.Comparison
/-!
# What a failing model does to the others

A model that fails can be left out: `isolated_iff` says when the run without its request gives the
same files and reports the same of every other model. A request that the first pass refuses can
always be left out. A model that fails in the second pass can be left out if and only if no other
model fails only because of an association to it, and its struct name does not pass to a schema that
is then converted or reported.
-/
namespace StructGen

variable {settings : RunSettings} {introspect : Introspect} {ids ids' : List String} {x k : String}

/-! ## Runs that agree -/

/-- The runs write the same files and report the same of every model but `k`. -/
structure SameApartFrom (k : String) (r r' : RunResult) : Prop where
  files : r.files.Perm r'.files
  diagnostics : ∀ n ≠ k, r.diagnostics.filter (·.model = n) = r'.diagnostics.filter (·.model = n)

/-- What makes two runs agree apart from one model. -/
theorem sameApartFrom_of (settings : RunSettings)
    (hrefusals : ∀ n ≠ k, refusals introspect ids n = refusals introspect ids' n)
    (hfaults : ∀ n ≠ k, ((secondPass introspect ids).faults.get? n).map (Diagnostic.ofFault n) =
      ((secondPass introspect ids').faults.get? n).map (Diagnostic.ofFault n))
    (hconverted : ∀ e, e ∈ convertedModels introspect ids ↔ e ∈ convertedModels introspect ids') :
    SameApartFrom k (generate settings introspect ids) (generate settings introspect ids') :=
  ⟨files_congr settings hconverted, fun n hn =>
    report_congr settings (hrefusals n hn) (hfaults n hn) (conversions_congr hconverted n)⟩

/-! ## What agreement shows -/

theorem SameApartFrom.converted (h : SameApartFrom k (generate settings introspect ids)
    (generate settings introspect ids')) {n : String}
    (hn : n ∈ (secondPass introspect ids').conversions.keys) :
    n ∈ (secondPass introspect ids).conversions.keys := by
  obtain ⟨c, hc⟩ := Keyed.mem_keys.1 hn
  have hw : Writes settings introspect ids' (c.file settings n) n c := writes_of_converted hc
  obtain ⟨d, hd⟩ := writes_of_model (h.files.mem_iff.2 hw.written) (k := n) rfl
  exact Keyed.keys_of_mem hd.converted

/-- The failures in what the second pass reports of a model. -/
theorem filter_isFailure_outcome (introspect : Introspect) (ids : List String) (n : String) :
    (outcome (secondPass introspect ids) n).filter (·.isFailure) =
      (((secondPass introspect ids).faults.get? n).map (Diagnostic.ofFault n)).toList := by
  unfold outcome
  cases (secondPass introspect ids).faults.get? n with
  | some fault => rfl
  | none =>
    cases hc : (secondPass introspect ids).conversions.get? n with
    | none => rfl
    | some c =>
      simp only [Option.map_none, Option.toList_none, List.filter_eq_nil_iff, List.mem_append,
        List.mem_singleton]
      rintro d (hd | rfl)
      · rcases (warning_of_conversion (Keyed.mem_of_get? hc) hd).2 with hk | hk <;>
          simp [Diagnostic.isFailure, hk]
      · simp [Diagnostic.isFailure, Diagnostic.ofConverted]

theorem isFailure_of_refusal {n : String} {d : Diagnostic} (h : d ∈ refusals introspect ids n) :
    d.isFailure = true := by
  obtain ⟨-, fault, -, rfl⟩ := mem_refusals.1 h
  rfl

/-- Runs that agree on a model report the same failures of it. -/
theorem SameApartFrom.failures (h : SameApartFrom k (generate settings introspect ids)
    (generate settings introspect ids')) {n : String} (hn : n ≠ k) :
    refusals introspect ids n ++
        (((secondPass introspect ids).faults.get? n).map (Diagnostic.ofFault n)).toList =
      refusals introspect ids' n ++
        (((secondPass introspect ids').faults.get? n).map (Diagnostic.ofFault n)).toList := by
  have hdiag := h.diagnostics n hn
  rw [report_of, report_of, List.append_cancel_right_eq] at hdiag
  have hfailures := congrArg (List.filter (·.isFailure)) hdiag
  simp only [List.filter_append, filter_isFailure_outcome] at hfailures
  rwa [List.filter_eq_self.2 fun d => isFailure_of_refusal,
    List.filter_eq_self.2 fun d => isFailure_of_refusal] at hfailures

/-- Runs whose arenas differ in one model only, and in which the others fail alike. -/
theorem sameApartFrom_of_arenas (settings : RunSettings)
    (hrefusals : ∀ n ≠ k, refusals introspect ids n = refusals introspect ids' n)
    (harena : ∀ n ≠ k, ∀ m, (n, m) ∈ arenaOf introspect ids ↔ (n, m) ∈ arenaOf introspect ids')
    (hfailures : ∀ n ≠ k, ∀ m, (n, m) ∈ arenaOf introspect ids →
      m.failure? (namesOf introspect ids) = m.failure? (namesOf introspect ids'))
    (hown : ∀ m, (k, m) ∈ convertedModels introspect ids ↔ (k, m) ∈ convertedModels introspect ids') :
    SameApartFrom k (generate settings introspect ids) (generate settings introspect ids') := by
  refine sameApartFrom_of settings hrefusals
    (fun n hn => faults_congr (harena n hn) (hfailures n hn)) fun ⟨n, m⟩ => ?_
  by_cases hn : n = k
  · subst hn
    exact hown m
  · exact mem_convertedModels_congr (harena n hn) (hfailures n hn) m

/-! ## Requests that the first pass refuses -/

theorem holder_without_refused {fault : Fault} (h : refusal? introspect ids x = some fault)
    (struct : String) : holder? introspect (without ids x) struct = holder? introspect ids struct := by
  apply holder_without
  intro m hm hholder
  obtain rfl := goName_of_holder hholder
  simp [refusal?, hm, hholder] at h

/-- A request that is refused can be left out. -/
theorem isolated_of_refused (settings : RunSettings) {fault : Fault}
    (h : refusal? introspect ids x = some fault) :
    SameApartFrom x (generate settings introspect ids)
      (generate settings introspect (without ids x)) := by
  have hholder := holder_without_refused h
  have harena : ∀ n m, (n, m) ∈ arenaOf introspect ids ↔
      (n, m) ∈ arenaOf introspect (without ids x) := by
    intro n m
    rw [mem_arenaOf, mem_arenaOf, hholder]
  have hfailure : ∀ m : Model, m.failure? (namesOf introspect ids) =
      m.failure? (namesOf introspect (without ids x)) := by
    intro m
    apply m.failure_congr
    intro n
    rw [mem_namesOf, mem_namesOf, hholder]
  refine sameApartFrom_of_arenas settings (fun n hn => ?_) (fun n _ => harena n)
    (fun _ _ m _ => hfailure m) fun m => ?_
  · exact (refusals_without hn fun _ m _ => by rw [hholder]).symm
  · rw [mem_convertedModels_iff, mem_convertedModels_iff, harena, hfailure]

/-! ## Models that fail in the second pass -/

section
variable {m : Model}

/-- The struct name of a model that fails in the second pass is its own. -/
theorem holder_of_failed (h : m.name ∈ (secondPass introspect ids).faults.keys) :
    ∃ t, t.name = m.name ∧ holder? introspect ids (goName m.name) = some t :=
  mem_namesOf.1 (keys_faults_subset h)

theorem refusal_of_failed (hm : introspect x = .ok m)
    (h : m.name ∈ (secondPass introspect ids).faults.keys) : refusal? introspect ids x = none := by
  obtain ⟨t, hname, ht⟩ := holder_of_failed h
  simp [refusal?, hm, ht, hname]

theorem holder_without_ne (hm : introspect x = .ok m) {struct : String} (hs : struct ≠ goName m.name) :
    holder? introspect (without ids x) struct = holder? introspect ids struct := by
  apply holder_without
  intro t ht hholder
  rw [hm] at ht
  cases ht
  exact hs (goName_of_holder hholder).symm

/-- If the struct name does not pass to a model of another name, the others are refused as before. -/
theorem refusals_without_failed (hm : introspect x = .ok m)
    (h : m.name ∈ (secondPass introspect ids).faults.keys)
    (hheir : ∀ t, holder? introspect (without ids x) (goName m.name) = some t → t.name = m.name)
    (n : String) : refusals introspect ids n = refusals introspect (without ids x) n := by
  by_cases hx : n = x
  · subst hx
    rw [refusals_of_not_mem fun hw => (mem_without.1 hw).2 rfl]
    simp [refusals, refusal_of_failed hm h]
  · refine (refusals_without hx fun hn u hu => ?_).symm
    by_cases hs : goName u.name = goName m.name
    · obtain ⟨t, hname, ht⟩ := holder_of_failed h
      obtain ⟨t', ht'⟩ := exists_holder (mem_without.2 ⟨hn, hx⟩) hu
      rw [hs] at ht' ⊢
      simp [ht, ht', hname, hheir t' ht']
    · rw [holder_without_ne hm hs]

/-- The other entries of the arena stay if the struct name passes to no model of another name. -/
theorem mem_arenaOf_without (hm : introspect x = .ok m)
    (h : m.name ∈ (secondPass introspect ids).faults.keys)
    (hheir : ∀ t, holder? introspect (without ids x) (goName m.name) = some t → t.name = m.name)
    {n : String} (hn : n ≠ m.name) (t : Model) :
    (n, t) ∈ arenaOf introspect ids ↔ (n, t) ∈ arenaOf introspect (without ids x) := by
  rw [mem_arenaOf, mem_arenaOf]
  apply and_congr_right
  intro hname
  by_cases hs : goName n = goName m.name
  · obtain ⟨t₀, hname₀, ht₀⟩ := holder_of_failed h
    rw [hs]
    constructor
    · intro ht
      rw [ht₀] at ht
      exact absurd (hname.symm.trans (Option.some.inj ht ▸ hname₀)) hn
    · intro ht
      exact absurd (hname.symm.trans (hheir t ht)) hn
  · rw [holder_without_ne hm hs]

/-- Where the struct name passes to a schema of the same name, that one has to fail as well. -/
theorem isolated_of_same_name (settings : RunSettings) (hm : introspect x = .ok m)
    (h : m.name ∈ (secondPass introspect ids).faults.keys) {t : Model}
    (ht : holder? introspect (without ids x) (goName m.name) = some t) (hname : t.name = m.name) :
    SameApartFrom m.name (generate settings introspect ids)
        (generate settings introspect (without ids x)) ↔
      t.failure? (namesOf introspect ids) ≠ none := by
  have hheir : ∀ t', holder? introspect (without ids x) (goName m.name) = some t' →
      t'.name = m.name := by
    intro t' ht'
    rw [ht] at ht'
    rw [← Option.some.inj ht', hname]
  have hmem : (m.name, t) ∈ arenaOf introspect (without ids x) := mem_arenaOf.2 ⟨hname, ht⟩
  have hfailure : ∀ u : Model, u.failure? (namesOf introspect ids) =
      u.failure? (namesOf introspect (without ids x)) := by
    intro u
    apply u.failure_congr
    intro n
    by_cases hn : n = m.name
    · subst hn
      exact ⟨fun _ => Keyed.keys_of_mem hmem, fun _ => keys_faults_subset h⟩
    · rw [namesOf, namesOf, Keyed.mem_keys, Keyed.mem_keys]
      exact exists_congr fun u => mem_arenaOf_without hm h hheir hn u
  rw [hfailure, ← mem_faults_keys hmem]
  constructor
  · intro hsame
    by_contra hok
    have hconv := converted_iff.2 ⟨Keyed.keys_of_mem hmem, hok⟩
    exact (converted_iff.1 (hsame.converted hconv)).2 h
  · intro hfails
    refine sameApartFrom_of_arenas settings (fun n _ => refusals_without_failed hm h hheir n)
      (fun n hn => mem_arenaOf_without hm h hheir hn) (fun _ _ u _ => hfailure u) fun u => ?_
    rw [mem_convertedModels, mem_convertedModels]
    exact ⟨fun hu => absurd h hu.2, fun hu => absurd hfails hu.2⟩

/-- A schema of another name that the struct name passes to is no longer refused, and what it fails
by then reads differently. -/
theorem refusals_ne_failure (hm : introspect x = .ok m)
    (h : m.name ∈ (secondPass introspect ids).faults.keys) {t : Model}
    (ht : holder? introspect (without ids x) (goName m.name) = some t) {kept : List Association}
    {obstacle : Obstacle} (hcheck : t.check kept = .error obstacle) :
    refusals introspect ids t.name ≠
      refusals introspect (without ids x) t.name ++
        [Diagnostic.ofFault t.name obstacle.toFault] := by
  intro he
  have hd : Diagnostic.ofFault t.name obstacle.toFault ∈ refusals introspect ids t.name := by
    rw [he]
    simp
  obtain ⟨-, clash, hr, hreads⟩ := mem_refusals.1 hd
  have hx : t.name ≠ x := by
    intro hx
    rw [hx, refusal_of_failed hm h] at hr
    cases hr
  -- The name is requested as often as before, so it can only be refused in one of the two runs.
  have hnew : refusal? introspect (without ids x) t.name = none := by
    cases hr' : refusal? introspect (without ids x) t.name with
    | none => rfl
    | some clash' =>
      have hlength := congrArg List.length he
      simp [refusals, hr, hr', count_without hx] at hlength
  cases hu : introspect t.name with
  | error fault' => simp [refusal?, hu] at hnew
  | ok u =>
    -- Only the struct name of `m` changes hands, so it is the one that `u` was refused for.
    have hs : goName u.name = goName m.name := by
      by_contra hs
      have hsame : refusal? introspect (without ids x) t.name = refusal? introspect ids t.name := by
        apply refusal_congr
        intro u' hu'
        rw [hu] at hu'
        cases hu'
        rw [holder_without_ne hm hs]
      rw [hnew, hr] at hsame
      cases hsame
    obtain ⟨t₀, -, ht₀⟩ := holder_of_failed h
    have hname : t.name = u.name := by
      by_contra hne
      simp [refusal?, hu, hs, ht, hne] at hnew
    simp only [refusal?, hu, hs, ht₀] at hr
    split at hr
    · cases hr
    · cases hr
      rw [← hname, ← hs] at hreads
      exact Model.check_ne_structClash hcheck _ _ _ _ hreads

/-- Where the struct name passes to a model of another name, that one is converted or reported. -/
theorem not_isolated_of_other_name (settings : RunSettings) (hm : introspect x = .ok m)
    (h : m.name ∈ (secondPass introspect ids).faults.keys) {t : Model}
    (ht : holder? introspect (without ids x) (goName m.name) = some t) (hname : t.name ≠ m.name) :
    ¬SameApartFrom m.name (generate settings introspect ids)
      (generate settings introspect (without ids x)) := by
  intro hsame
  obtain ⟨t₀, hname₀, ht₀⟩ := holder_of_failed h
  have hstruct : goName t.name = goName m.name := goName_of_holder ht
  have hmem : (t.name, t) ∈ arenaOf introspect (without ids x) := by
    rw [mem_arenaOf, hstruct]
    exact ⟨rfl, ht⟩
  have hout : t.name ∉ (arenaOf introspect ids).keys := by
    intro hin
    obtain ⟨u, hu, hholder⟩ := mem_namesOf.1 hin
    rw [hstruct, ht₀] at hholder
    rw [← Option.some.inj hholder] at hu
    exact hname (hu.symm.trans hname₀)
  by_cases hok : t.name ∈ (secondPass introspect (without ids x)).faults.keys
  · obtain ⟨fault, hfault⟩ := Keyed.mem_keys.1 hok
    obtain ⟨u, hu, hconvert⟩ := mem_faults.1 hfault
    obtain rfl := Keyed.eq_of_mem (nodup_arenaOf introspect _) hmem hu
    have hfailures := hsame.failures hname
    rw [(Keyed.get?_eq_some (nodup_faults introspect _)).2 hfault,
      Keyed.get?_eq_none.2 fun hin => hout (keys_faults_subset hin)] at hfailures
    obtain ⟨obstacle, hcheck, rfl⟩ := convertModel_eq_error.1 hconvert
    refine refusals_ne_failure hm h ht hcheck ?_
    simpa using hfailures
  · have hconv := converted_iff.2 ⟨Keyed.keys_of_mem hmem, hok⟩
    exact hout (converted_iff.1 (hsame.converted hconv)).1

/-- Where the struct name passes to no other schema, the others have to fail as before. -/
theorem isolated_of_no_heir (settings : RunSettings) (hm : introspect x = .ok m)
    (h : m.name ∈ (secondPass introspect ids).faults.keys)
    (ht : holder? introspect (without ids x) (goName m.name) = none) :
    SameApartFrom m.name (generate settings introspect ids)
        (generate settings introspect (without ids x)) ↔
      ∀ n ≠ m.name, ∀ t, (n, t) ∈ arenaOf introspect ids →
        t.failure? ((namesOf introspect ids).filter (· ≠ m.name)) =
          t.failure? (namesOf introspect ids) := by
  have hheir : ∀ t, holder? introspect (without ids x) (goName m.name) = some t →
      t.name = m.name := by
    intro t ht'
    rw [ht] at ht'
    cases ht'
  have hfailure : ∀ u : Model, u.failure? (namesOf introspect (without ids x)) =
      u.failure? ((namesOf introspect ids).filter (· ≠ m.name)) := by
    intro u
    apply u.failure_congr
    intro n
    rw [List.mem_filter, decide_eq_true_eq]
    by_cases hn : n = m.name
    · subst hn
      rw [mem_namesOf, ht]
      simp
    · rw [namesOf, namesOf, Keyed.mem_keys, Keyed.mem_keys, and_iff_left hn]
      exact exists_congr fun u => (mem_arenaOf_without hm h hheir hn u).symm
  constructor
  · intro hsame n hn t hmem
    have hfailures := hsame.failures hn
    rw [refusals_without_failed hm h hheir n, List.append_cancel_left_eq, failure_of_fault hmem,
      failure_of_fault ((mem_arenaOf_without hm h hheir hn t).1 hmem), hfailure] at hfailures
    have hhead := congrArg List.head? hfailures
    rw [Option.head?_toList, Option.head?_toList] at hhead
    exact hhead.symm
  · intro hsame
    refine sameApartFrom_of_arenas settings (fun n _ => refusals_without_failed hm h hheir n)
      (fun n hn => mem_arenaOf_without hm h hheir hn) (fun n hn t hmem => ?_) fun u => ?_
    · rw [hfailure, hsame n hn t hmem]
    · rw [mem_convertedModels, mem_convertedModels, @mem_arenaOf introspect (without ids x), ht]
      simp [h]

end

/-! ## When a failing request can be left out -/

/-- The request `x` fails, and this is reported under the name `k`: the first pass refuses it, or
its schema's name fails in the second. -/
inductive Fails (introspect : Introspect) (ids : List String) (x : String) : String → Prop
  | refused {fault : Fault} (h : refusal? introspect ids x = some fault) : Fails introspect ids x x
  | failed {m : Model} (hm : introspect x = .ok m)
      (h : m.name ∈ (secondPass introspect ids).faults.keys) : Fails introspect ids x m.name

/-- Leaving out the request `x` harms nobody, if it is not refused: the struct name of its schema
passes to a schema of the same name that fails as well, or to none, and then the other models fail
as they did without their associations to it. -/
def Harmless (introspect : Introspect) (ids : List String) (x : String) : Prop :=
  ∀ m, introspect x = .ok m → refusal? introspect ids x = none →
    match holder? introspect (without ids x) (goName m.name) with
    | some t => t.name = m.name ∧ t.failure? (namesOf introspect ids) ≠ none
    | none => ∀ n ≠ m.name, ∀ t, (n, t) ∈ arenaOf introspect ids →
        t.failure? ((namesOf introspect ids).filter (· ≠ m.name)) =
          t.failure? (namesOf introspect ids)

/-- The run without a failing request writes the same files and reports the same of every other
model if and only if it is harmless to leave the request out. -/
theorem isolated_iff (settings : RunSettings) (hfails : Fails introspect ids x k) :
    SameApartFrom k (generate settings introspect ids)
        (generate settings introspect (without ids x)) ↔ Harmless introspect ids x := by
  cases hfails with
  | refused h =>
    refine ⟨fun _ m _ hnone => ?_, fun _ => isolated_of_refused settings h⟩
    rw [h] at hnone
    cases hnone
  | @failed m hm h =>
    have hnone := refusal_of_failed hm h
    unfold Harmless
    simp only [hm, Except.ok.injEq, forall_eq', hnone, forall_const]
    cases ht : holder? introspect (without ids x) (goName m.name) with
    | none => exact isolated_of_no_heir settings hm h ht
    | some t =>
      by_cases hname : t.name = m.name
      · rw [isolated_of_same_name settings hm h ht hname]
        exact (and_iff_right hname).symm
      · have hnot := not_isolated_of_other_name settings hm h ht hname
        exact iff_of_false hnot fun hsame => hname hsame.1

theorem isolated_without_clash :
    Fails (ordersOf "note") ["Order", "Customer"] "Customer" "Customer" ∧
      SameApartFrom "Customer" (generate usualSettings (ordersOf "note") ["Order", "Customer"])
        (generate usualSettings (ordersOf "note") (without ["Order", "Customer"] "Customer")) := by
  have hfails : Fails (ordersOf "note") ["Order", "Customer"] "Customer" "Customer" :=
    .failed (m := keylessTable "Customer" "customers") rfl (by decide +kernel)
  refine ⟨hfails, (isolated_iff usualSettings hfails).2 fun m hm _ => ?_⟩
  cases hm
  have hheir : (holder? (ordersOf "note") (without ["Order", "Customer"] "Customer")
      (goName "Customer")).isNone = true := by decide +kernel
  have hothers : ∀ e ∈ arenaOf (ordersOf "note") ["Order", "Customer"], e.1 ≠ "Customer" →
      e.2.failure? ((namesOf (ordersOf "note") ["Order", "Customer"]).filter (· ≠ "Customer")) =
        e.2.failure? (namesOf (ordersOf "note") ["Order", "Customer"]) := by decide +kernel
  rw [show (keylessTable "Customer" "customers").name = "Customer" from rfl,
    Option.isNone_iff_eq_none.1 hheir]
  exact fun n hn t ht => hothers (n, t) ht hn

/-- A model that fails takes another one with it: the orders fail by the name of an association to
the customers, which are not emitted anyway. -/
theorem not_isolated_with_clash : "Customer" ∈ ["Order", "Customer"] ∧
    Fails (ordersOf "customer") ["Order", "Customer"] "Customer" "Customer" ∧
      ¬SameApartFrom "Customer" (generate usualSettings (ordersOf "customer") ["Order", "Customer"])
        (generate usualSettings (ordersOf "customer") (without ["Order", "Customer"] "Customer")) := by
  have hfails : Fails (ordersOf "customer") ["Order", "Customer"] "Customer" "Customer" :=
    .failed (m := keylessTable "Customer" "customers") rfl (by decide +kernel)
  refine ⟨by decide, hfails, fun hsame => ?_⟩
  have hnone : (generate usualSettings (ordersOf "customer") ["Order", "Customer"]).files.length = 0 := by
    decide +kernel
  have hone : (generate usualSettings (ordersOf "customer")
      (without ["Order", "Customer"] "Customer")).files.length = 1 := by decide +kernel
  have hlength := hsame.files.length_eq
  rw [hnone, hone] at hlength
  cases hlength

end StructGen
