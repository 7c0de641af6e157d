import StructGen.Proofs.Report
/-!
# What becomes of a request

Schemas are gathered by their own names, so of several schemas of one name only the first is
emitted. `accounted_iff`: a request is accounted for if and only if a failure is reported of it or
of its schema's name, or its schema is the first requested one of that name. If it is not, the file
of that name is emitted from another schema and nothing says so.
-/
namespace StructGen

variable {settings : RunSettings} {introspect : Introspect} {ids : List String}

/-! ## Reports and files of a request -/

/-- A run reports a failure under the name. -/
def Reported (settings : RunSettings) (introspect : Introspect) (ids : List String)
    (name : String) : Prop :=
  ∃ d ∈ (generate settings introspect ids).diagnostics, d.isFailure = true ∧ d.model = name

/-- A run writes a file under the name of the schema, and emits it from this schema. -/
structure WrittenFrom (settings : RunSettings) (introspect : Introspect) (ids : List String)
    (m : Model) : Prop where
  schema : (m.name, m) ∈ convertedModels introspect ids
  shown : ∃ f c, Writes settings introspect ids f m.name c ∧ convertModel (arenaOf introspect ids)
    ((convertedModels introspect ids).map Prod.fst) m = .ok c

/-- A request that leads to the schema `m` fails under its own name or that of the schema, or the
schema is written. -/
def Accounted (settings : RunSettings) (introspect : Introspect) (ids : List String)
    (id : String) (m : Model) : Prop :=
  Reported settings introspect ids id ∨ Reported settings introspect ids m.name ∨
    WrittenFrom settings introspect ids m

/-- The first requested schema of a name. -/
def firstNamed? (introspect : Introspect) (ids : List String) (name : String) : Option Model :=
  (schemas introspect ids).find? fun m => m.name = name

theorem reported_of_refusal {id : String} {fault : Fault} (hid : id ∈ ids)
    (h : refusal? introspect ids id = some fault) : Reported settings introspect ids id := by
  refine ⟨Diagnostic.ofFault id fault, mem_diagnostics.2 ?_, rfl, rfl⟩
  refine List.mem_append_left _ (List.mem_append_left _ ?_)
  exact mem_refusals.2 ⟨hid, fault, h, rfl⟩

theorem reported_of_fault {name : String} (h : name ∈ (secondPass introspect ids).faults.keys) :
    Reported settings introspect ids name := by
  obtain ⟨fault, hf⟩ := Keyed.mem_keys.1 h
  refine ⟨Diagnostic.ofFault name fault, mem_diagnostics.2 ?_, rfl, rfl⟩
  refine List.mem_append_left _ (List.mem_append_right _ ?_)
  have hget := (Keyed.get?_eq_some (nodup_faults introspect ids)).2 hf
  simp [Diagnostic.ofFault, outcome, hget]

theorem writtenFrom_of_converted {m : Model} (h : (m.name, m) ∈ convertedModels introspect ids) :
    WrittenFrom settings introspect ids m := by
  obtain ⟨c, hc⟩ := converted_of_mem_survivors h
  exact ⟨h, _, c, writes_of_converted (mem_conversions.2 ⟨m, h, hc⟩), hc⟩

/-- The schema that a struct name belongs to is the first of its own name. -/
theorem firstNamed_of_holder {struct : String} {m : Model}
    (h : holder? introspect ids struct = some m) : firstNamed? introspect ids m.name = some m := by
  have hstruct := goName_of_holder h
  unfold holder? at h
  unfold firstNamed?
  rw [List.find?_eq_some_iff_append] at h ⊢
  obtain ⟨-, before, after, hlist, hbefore⟩ := h
  refine ⟨by simp, before, after, hlist, fun t ht => ?_⟩
  have hne : goName t.name ≠ struct := by simpa using hbefore t ht
  have hname : t.name ≠ m.name := by
    intro he
    rw [he] at hne
    exact hne hstruct
  simpa using hname

/-- A request fails, or the first schema of its schema's name is written. -/
theorem fate_of_request (settings : RunSettings) {id : String} {m : Model} (hid : id ∈ ids)
    (hm : introspect id = .ok m) :
    Reported settings introspect ids id ∨ Reported settings introspect ids m.name ∨
      ∃ t, t.name = m.name ∧ firstNamed? introspect ids m.name = some t ∧
        WrittenFrom settings introspect ids t := by
  obtain ⟨t, ht⟩ := exists_holder hid hm
  by_cases hname : t.name = m.name
  · -- The struct name belongs to a schema of this name, which is in the arena.
    right
    have harena : (t.name, t) ∈ arenaOf introspect ids := by
      rw [mem_arenaOf, hname]
      exact ⟨rfl, ht⟩
    by_cases hfault : m.name ∈ (secondPass introspect ids).faults.keys
    · exact .inl (reported_of_fault hfault)
    · refine .inr ⟨t, hname, ?_, writtenFrom_of_converted (mem_convertedModels.2 ⟨harena, ?_⟩)⟩
      · rw [← hname]
        exact firstNamed_of_holder ht
      · rwa [hname]
  · -- It belongs to a model of another name, so the request is refused.
    left
    have hrefused : refusal? introspect ids id = some (.nameCollision m.name (goName m.name)
        ["model '" ++ t.name ++ "'", "model '" ++ m.name ++ "'"]) := by
      simp [refusal?, hm, ht, hname]
    exact reported_of_refusal hid hrefused

/-! ## Which requests are accounted for -/

/-- A request is accounted for if and only if it is reported or its schema is the first of its name;
otherwise the file of that name is emitted from the first, which is another one. -/
theorem accounted_iff (settings : RunSettings) {id : String} {m : Model} (hid : id ∈ ids)
    (hm : introspect id = .ok m) :
    (Accounted settings introspect ids id m ↔
        Reported settings introspect ids id ∨ Reported settings introspect ids m.name ∨
          firstNamed? introspect ids m.name = some m) ∧
      (¬Accounted settings introspect ids id m →
        ∃ t, t ≠ m ∧ t.name = m.name ∧ firstNamed? introspect ids m.name = some t ∧
          WrittenFrom settings introspect ids t) := by
  refine ⟨⟨?_, ?_⟩, fun hlost => ?_⟩
  · rintro (h | h | h)
    · exact .inl h
    · exact .inr (.inl h)
    · exact .inr (.inr (firstNamed_of_holder (mem_arenaOf.1 (mem_convertedModels.1 h.schema).1).2))
  · rintro (h | h | h)
    · exact .inl h
    · exact .inr (.inl h)
    · rcases fate_of_request settings hid hm with hr | hr | ⟨t, -, hfirst, hw⟩
      · exact .inl hr
      · exact .inr (.inl hr)
      · obtain rfl := Option.some.inj (h.symm.trans hfirst)
        exact .inr (.inr hw)
  · rcases fate_of_request settings hid hm with hr | hr | ⟨t, hname, hfirst, hw⟩
    · exact absurd (.inl hr) hlost
    · exact absurd (.inr (.inl hr)) hlost
    · refine ⟨t, ?_, hname, hfirst, hw⟩
      rintro rfl
      exact hlost (.inr (.inr hw))

/-- A schema of a table with one key column. -/
def keyedTable (name table : String) : Model where
  name
  tableName := table
  columns := [{ name := "id", sourceType := "Integer", isPrimaryKey := true }]

/-- Two classes of one name, each with its own table. -/
def twoUsers : Introspect := fun id =>
  if id = "app.User" then .ok (keyedTable "User" "users")
  else if id = "auth.User" then .ok (keyedTable "User" "accounts")
  else .error (.lookup id ["app.User", "auth.User"] false)

theorem accounted_first_user :
    Accounted usualSettings twoUsers ["app.User", "auth.User"] "app.User" (keyedTable "User" "users") :=
  (accounted_iff usualSettings (by decide) rfl).1.2 (.inr (.inr rfl))

/-- The second of two classes of one name is neither written nor reported. -/
theorem not_accounted_second_user : "auth.User" ∈ ["app.User", "auth.User"] ∧
    twoUsers "auth.User" = .ok (keyedTable "User" "accounts") ∧
    ¬Accounted usualSettings twoUsers ["app.User", "auth.User"] "auth.User"
      (keyedTable "User" "accounts") := by
  refine ⟨by decide, rfl, ?_⟩
  have hnone : ∀ d ∈ (generate usualSettings twoUsers ["app.User", "auth.User"]).diagnostics,
      d.isFailure = false := by decide +kernel
  have hholder : (holder? twoUsers ["app.User", "auth.User"] (goName "User")).map (·.tableName) =
      some "users" := by decide +kernel
  rintro (⟨d, hd, hf, -⟩ | ⟨d, hd, hf, -⟩ | h)
  · rw [hnone d hd] at hf
    cases hf
  · rw [hnone d hd] at hf
    cases hf
  · have hm := (mem_arenaOf.1 (mem_convertedModels.1 h.schema).1).2
    rw [show (keyedTable "User" "accounts").name = "User" from rfl] at hm
    rw [hm, Option.map_some] at hholder
    exact absurd (Option.some.inj hholder) (by decide)

end StructGen
