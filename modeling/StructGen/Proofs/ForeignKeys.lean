import StructGen.Declared.Record.Schema
import StructGen.Proofs.Discovery
/-!
# Columns of foreign keys

An association is over a foreign key, which is a column of its own table or of its target's. Nothing
asks this of schemas, but record models have it from their declarations: their foreign keys are fields,
and each gives an association to its own model and one back (`RecordModels.keysAreColumns`).
-/
namespace StructGen

/-- The foreign keys of a run's schemas are columns: that of an association to an owner in the
model's own table, that of an association to what is owned in the target's. -/
structure KeysAreColumns (introspect : Introspect) (ids : List String) : Prop where
  own {k : String} {m : Model} (hm : (k, m) ∈ arenaOf introspect ids) {a : Association}
    (ha : a ∈ m.associations) (hkind : a.kind = .belongsTo) :
    a.foreignKey ∈ m.columns.map (·.name)
  targets {k : String} {m t : Model} (hm : (k, m) ∈ arenaOf introspect ids) {a : Association}
    (ha : a ∈ m.associations) (hkind : a.kind = .hasOne ∨ a.kind = .hasMany)
    (ht : (a.target, t) ∈ arenaOf introspect ids) :
    a.foreignKey ∈ t.columns.map (·.name)

namespace Declared.RecordModels

variable {models : RecordModels} {m : RecordModel} {i : Nat} {s : Model} {a : Association}

/-- The column of a field has its name and its source type. -/
theorem column_eq_ok {f : RecordField} {c : Column} (h : models.column f = .ok c) :
    c.name = f.columnName ∧ c.sourceType = models.source f := by
  unfold column at h
  cases hlength : models.length f with
  | error issues => simp [hlength, bind, Except.bind] at h
  | ok length =>
    simp only [hlength, bind, Except.bind, pure, Except.pure, Except.ok.injEq] at h
    rw [← h]
    exact ⟨rfl, rfl⟩

theorem names_of_columns {fields : List RecordField} {columns : List Column}
    (h : fields.mapM models.column = .ok columns) :
    columns.map (·.name) = fields.map (·.columnName) := by
  induction fields generalizing columns with
  | nil =>
    cases h
    rfl
  | cons f rest ih =>
    rw [List.mapM_cons] at h
    cases hf : models.column f with
    | error issues => simp [hf, bind, Except.bind] at h
    | ok c =>
      cases hrest : rest.mapM models.column with
      | error issues => simp [hf, hrest, bind, Except.bind] at h
      | ok cs =>
        simp only [hf, hrest, bind, Except.bind, pure, Except.pure, Except.ok.injEq] at h
        rw [← h, List.map_cons, List.map_cons, (column_eq_ok hf).1, ih hrest]

/-- The schema of a model has a column for each of its fields, and the associations of its foreign
keys, of its joins and of the foreign keys that refer to it. -/
theorem schema_eq_ok (h : models.schema i m = .ok s) : s.name = m.decl.name ∧
    s.columns.map (·.name) = m.fields.map (·.columnName) ∧
    s.associations = models.ownAssociations m ++ joinAssociations m ++ models.backAssociations i := by
  unfold schema at h
  split at h
  · cases h
  · cases h
  · split at h
    · cases h
    · next columns hcolumns =>
      cases h
      exact ⟨rfl, names_of_columns hcolumns, rfl⟩

theorem columnName_of_reference {f : RecordField} {j : Nat} (h : (f, j) ∈ m.references) :
    f.columnName ∈ m.fields.map (·.columnName) := by
  obtain ⟨g, hg, heq⟩ := List.mem_filterMap.1 h
  split at heq
  · cases heq
    exact List.mem_map_of_mem hg
  · cases heq

theorem foreignKey_of_own (ha : a ∈ models.ownAssociations m) :
    a.kind = .belongsTo ∧ a.foreignKey ∈ m.fields.map (·.columnName) := by
  obtain ⟨r, hr, rfl⟩ := List.mem_map.1 ha
  exact ⟨rfl, columnName_of_reference hr⟩

theorem kind_of_join (ha : a ∈ joinAssociations m) : a.kind = .manyToMany := by
  obtain ⟨j, -, rfl⟩ := List.mem_map.1 ha
  rfl

theorem foreignKey_of_back (ha : a ∈ models.backAssociations i) :
    (a.kind = .hasOne ∨ a.kind = .hasMany) ∧
      ∃ owner ∈ models, a.target = owner.decl.name ∧
        a.foreignKey ∈ owner.fields.map (·.columnName) := by
  obtain ⟨owner, howner, hmem⟩ := List.mem_flatMap.1 ha
  obtain ⟨⟨f, j⟩, hr, hback⟩ := List.mem_filterMap.1 hmem
  have hcolumn := columnName_of_reference (List.mem_of_mem_filter hr)
  unfold backAssociation? at hback
  split at hback
  · split at hback
    · cases hback
    · cases hback
      refine ⟨?_, owner, howner, rfl, hcolumn⟩
      cases f.unique <;> simp
  · cases hback

/-- An association of a schema belongs to an owner by a column of its own, has others by a column of
theirs, or leads through a join. -/
theorem association_cases (h : models.schema i m = .ok s) (ha : a ∈ s.associations) :
    a.kind = .belongsTo ∧ a.foreignKey ∈ s.columns.map (·.name) ∨ a.kind = .manyToMany ∨
      (a.kind = .hasOne ∨ a.kind = .hasMany) ∧
        ∃ owner ∈ models, a.target = owner.decl.name ∧
          a.foreignKey ∈ owner.fields.map (·.columnName) := by
  obtain ⟨-, hcolumns, hassociations⟩ := schema_eq_ok h
  rw [hassociations, List.mem_append, List.mem_append] at ha
  rw [hcolumns]
  rcases ha with (hown | hjoin) | hback
  · exact .inl (foreignKey_of_own hown)
  · exact .inr (.inl (kind_of_join hjoin))
  · exact .inr (.inr (foreignKey_of_back hback))

end Declared.RecordModels

/-- A schema that a catalog gives is that of one of its classes. -/
theorem schema_of_introspector {classes : List ClassDecl}
    {schema? : Nat → Option (Except Refusal Model)} {id : String} {s : Model}
    (h : (Catalog.ofClasses classes schema?).introspector.lookup id = .ok s) :
    ∃ i, schema? i = some (.ok s) := by
  have hanswer : Catalog.schemaOf ((Catalog.ofClasses classes schema?).select id) = .ok s := by
    unfold Introspector.lookup Catalog.introspector Except.mapError at h
    split at h
    · cases h
    · next hok =>
      cases h
      exact hok
  have hselect := select_answer classes schema? id
  revert hanswer
  generalize (Catalog.ofClasses classes schema?).select id = answer at hselect
  intro hanswer
  cases hselect with
  | @concrete i decl schema only declares =>
    have hschema : schema = .ok s := hanswer
    exact ⟨i, by rw [declares, hschema]⟩
  | _ => cases hanswer

namespace Declared.RecordModels

variable {models : RecordModels} {s : Model}

/-- A schema that is found is that of the model at a position. -/
theorem schema_of_lookup {abstract : List String} {id : String}
    (h : (models.catalog abstract).introspector.lookup id = .ok s) :
    ∃ i, ∃ m ∈ models, models.schema i m = .ok s := by
  obtain ⟨i, hi⟩ := schema_of_introspector h
  split at hi
  · cases hi
  · obtain ⟨m, hm, hschema⟩ := Option.map_eq_some_iff.1 hi
    exact ⟨i, m, List.mem_of_getElem? hm, hschema⟩

/-- Record models of different names give schemas whose foreign keys are columns. -/
theorem keysAreColumns (hnames : (models.map (·.decl.name)).Nodup) (abstract ids : List String) :
    KeysAreColumns (models.catalog abstract).introspector.lookup ids := by
  have hschema : ∀ {k s}, (k, s) ∈ arenaOf (models.catalog abstract).introspector.lookup ids →
      s.name = k ∧ ∃ i, ∃ m ∈ models, models.schema i m = .ok s := by
    intro k s hs
    obtain ⟨hname, hholder⟩ := mem_arenaOf.1 hs
    obtain ⟨id, -, hlookup⟩ := mem_schemas.1 (List.mem_of_find?_eq_some hholder)
    exact ⟨hname, schema_of_lookup hlookup⟩
  constructor
  · intro k s hs a ha hkind
    obtain ⟨-, i, m, -, hm⟩ := hschema hs
    rcases association_cases hm ha with ⟨-, hcolumn⟩ | hjoin | ⟨hback, -⟩
    · exact hcolumn
    · exact absurd hkind (by simp [hjoin])
    · rcases hback with hback | hback <;> exact absurd hkind (by simp [hback])
  · intro k s t hs a ha hkind ht
    obtain ⟨-, i, m, -, hm⟩ := hschema hs
    obtain ⟨htarget, j, owner, howner, hj⟩ := hschema ht
    obtain ⟨hname, hcolumns, -⟩ := schema_eq_ok hj
    rcases association_cases hm ha with ⟨hown, -⟩ | hjoin | ⟨-, owner', howner', hname', hcolumn⟩
    · rcases hkind with hkind | hkind <;> exact absurd hown (by simp [hkind])
    · rcases hkind with hkind | hkind <;> exact absurd hjoin (by simp [hkind])
    · -- The target and the owner of the key have one name, so they are one model.
      have hsame : owner = owner' :=
        List.inj_on_of_nodup_map hnames howner howner' (by rw [← hname, htarget, hname'])
      rw [hcolumns, hsame]
      exact hcolumn

end Declared.RecordModels

end StructGen
