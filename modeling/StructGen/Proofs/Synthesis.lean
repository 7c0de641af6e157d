import Mathlib.Data.List.Nodup
import StructGen.GoStruct.Synthesis
import StructGen.Proofs.Shown
/-!
# What a struct is made of

`synthesize_eq` splits the synthesis of a struct in two: whether it succeeds, and with which column
fields, depends on the associations alone (`Model.check`); the links only give the fields after
these. `check_sublist`: a model that can be represented can be represented with fewer associations.
A column has a field for every type if and only if the integers that it shows can be written
(`Column.exists_field`).
-/
namespace StructGen

open Number

/-! ## Columns -/

namespace ColumnType

variable {t : ColumnType} {nullable hasDefault : Bool} {d : Value}

/-- The setting of a default, its integers as long as they are. -/
def defaultTexts (hasDefault : Bool) (d : Value) : List String :=
  match hasDefault, d with
  | true, .null => []
  | true, d => ["default:" ++ escapeSetting (defaultText d)]
  | false, _ => []

theorem defaultSettings_eq_ok {settings : List String} :
    defaultSettings hasDefault d = .ok settings ↔ (hasDefault = true → d.isShort = true) ∧
      settings = defaultTexts hasDefault d := by
  unfold defaultSettings
  split
  · exact ⟨fun h => ⟨fun _ => rfl, (Except.ok.inj h).symm⟩, fun h => congrArg _ h.2.symm⟩
  · next hnull =>
    have htexts : defaultTexts true d = ["default:" ++ escapeSetting (defaultText d)] := by
      cases d
      case null => exact absurd rfl hnull
      all_goals rfl
    rw [map_eq_ok, htexts]
    constructor
    · rintro ⟨_, hliteral, rfl⟩
      obtain ⟨hshort, rfl⟩ := Value.shown_eq_ok.1 hliteral
      exact ⟨fun _ => hshort, rfl⟩
    · rintro ⟨hshort, rfl⟩
      exact ⟨_, Value.shown_of_isShort (hshort rfl) defaultText, rfl⟩
  · exact ⟨fun h => ⟨nofun, (Except.ok.inj h).symm⟩, fun h => congrArg _ h.2.symm⟩

theorem settings_eq_ok {settings : List String} :
    t.settings nullable hasDefault d = .ok settings ↔ ∃ ofDefault,
      defaultSettings hasDefault d = .ok ofDefault ∧ settings = ["type:" ++ t.goType.sqlType] ++
        (if nullable then [] else ["not null"]) ++ ofDefault := by
  rw [ColumnType.settings, bind_eq_ok]
  exact exists_congr fun _ => and_congr_right fun _ =>
    ⟨fun h => (Except.ok.inj h).symm, fun h => congrArg _ h.symm⟩

end ColumnType

namespace Column

variable {c : Column} {t : ColumnType}

/-- Every integer that the field of a column shows can be written. -/
structure IsShort (c : Column) : Prop where
  default : c.hasDefault = true → c.defaultValue.isShort = true
  length : ∀ n, c.length = some n → isShort n = true

theorem lengthSettings_eq_ok {settings : List String} :
    c.lengthSettings = .ok settings ↔ (∀ n, c.length = some n → isShort n = true) ∧
      settings = match c.length with
        | some n => if n = 0 then [] else ["size:" ++ toString n]
        | none => [] := by
  unfold lengthSettings
  cases c.length with
  | none => exact ⟨fun h => ⟨nofun, (Except.ok.inj h).symm⟩, fun h => congrArg _ h.2.symm⟩
  | some n =>
    simp only [Option.some.injEq, forall_eq']
    by_cases hn : n = 0
    · rw [if_pos hn, if_pos hn, hn]
      exact ⟨fun h => ⟨isShort_zero, (Except.ok.inj h).symm⟩, fun h => congrArg _ h.2.symm⟩
    · rw [if_neg hn, if_neg hn, map_eq_ok]
      constructor
      · rintro ⟨_, hdigits, rfl⟩
        obtain ⟨hshort, rfl⟩ := showInt_eq_ok.1 hdigits
        exact ⟨hshort, rfl⟩
      · rintro ⟨hshort, rfl⟩
        exact ⟨_, showInt_eq_ok.2 ⟨hshort, rfl⟩, rfl⟩

/-- The settings of a column are those of its name, key, type, uniqueness, length and time. -/
theorem settings_eq_ok {settings : List String} :
    c.settings t = .ok settings ↔ ∃ ofType ofSize,
      t.settings c.mayBeNull c.hasDefault c.defaultValue = .ok ofType ∧
      c.lengthSettings = .ok ofSize ∧
      settings = ["column:" ++ c.name] ++
        (if c.isPrimaryKey then ["primaryKey"] else []) ++
        ofType ++
        (if c.unique && !c.isPrimaryKey then ["unique"] else []) ++
        ofSize ++
        (match automaticTimes.lookup c.name with
          | some auto => if t.goType.package = some "time" then [auto] else []
          | none => []) := by
  simp only [Column.settings, bind_eq_ok, exists_and_left]
  exact exists_congr fun _ => and_congr_right fun _ => exists_congr fun _ => and_congr_right fun _ =>
    ⟨fun h => (Except.ok.inj h).symm, fun h => congrArg _ h.symm⟩

theorem exists_settings : (∃ settings, c.settings t = .ok settings) ↔ c.IsShort := by
  simp only [settings_eq_ok, ColumnType.settings_eq_ok, ColumnType.defaultSettings_eq_ok,
    lengthSettings_eq_ok]
  constructor
  · rintro ⟨_, _, _, ⟨_, ⟨hdefault, -⟩, -⟩, ⟨hlength, -⟩, -⟩
    exact ⟨hdefault, hlength⟩
  · rintro ⟨hdefault, hlength⟩
    exact ⟨_, _, _, ⟨_, ⟨hdefault, rfl⟩, rfl⟩, ⟨hlength, rfl⟩, rfl⟩

theorem field_eq_ok {f : GoField} :
    c.field t = .ok f ↔ ∃ settings, c.settings t = .ok settings ∧ f = c.fieldWith t settings := by
  rw [field, map_eq_ok]
  exact exists_congr fun _ => and_congr_right fun _ => eq_comm

theorem exists_field : (∃ f, c.field t = .ok f) ↔ c.IsShort := by
  rw [← exists_settings (t := t)]
  simp only [field_eq_ok]
  exact ⟨fun ⟨_, settings, h, _⟩ => ⟨settings, h⟩, fun ⟨settings, h⟩ => ⟨_, settings, h, rfl⟩⟩

theorem field_eq_error (h : ¬c.IsShort) (t : ColumnType) : c.field t = .error .tooManyDigits := by
  cases hf : c.field t with
  | ok f => exact absurd (exists_field.1 ⟨f, hf⟩) h
  | error fault => cases fault; rfl

theorem find_eq_ok {source : String} {column : Option String} :
    ColumnType.find source column = .ok t ↔ ColumnType.ofName? source = some t := by
  unfold ColumnType.find
  split <;> simp_all

theorem toField_eq_ok {model : String} {f : GoField} : c.toField model = .ok f ↔
    ∃ t, ColumnType.ofName? c.sourceType = some t ∧ c.field t = .ok f := by
  simp only [toField, bind_eq_ok, mapError_eq_ok, find_eq_ok]

end Column

/-! ## Taking names -/

theorem TakenNames.take_free {taken : TakenNames} {name : String} (h : name ∉ taken.map Prod.fst)
    (model source : String) : taken.take model name source = .ok ((name, source) :: taken) := by
  unfold TakenNames.take
  split
  · next earlier he =>
    obtain ⟨before, after, rfl, -⟩ := List.lookup_eq_some_iff.1 he
    simp at h
  · rfl

theorem TakenNames.take_taken {taken : TakenNames} {name : String} (h : name ∈ taken.map Prod.fst)
    (model source : String) : ∃ earlier, (name, earlier) ∈ taken ∧
      taken.take model name source = .error (.nameCollision model name [earlier, source]) := by
  unfold TakenNames.take
  split
  · next earlier he =>
    obtain ⟨before, after, rfl, -⟩ := List.lookup_eq_some_iff.1 he
    exact ⟨earlier, by simp, rfl⟩
  · next hn =>
    obtain ⟨e, he, rfl⟩ := List.mem_map.1 h
    simpa using List.lookup_eq_none_iff.1 hn e he

namespace Model

/-- Takes the field names of associations one after the other. -/
def takeNames (model : String) : TakenNames → List Association → Except Fault TakenNames
  | taken, [] => .ok taken
  | taken, a :: rest => do
    let taken ← taken.take model (goName a.name) ("association '" ++ a.name ++ "'")
    takeNames model taken rest

theorem linkFields_eq (model : String) (taken : TakenNames) (links : List Link) :
    linkFields model taken links =
      (takeNames model taken (links.map (·.association))).map fun t => (links.map Link.field, t) := by
  induction links generalizing taken with
  | nil => rfl
  | cons l rest ih =>
    simp only [linkFields, List.map_cons, takeNames, Link.field, bind, Except.bind]
    split
    · rfl
    · next t ht =>
      rw [ih]
      cases takeNames model t (rest.map (·.association)) <;> rfl

/-- Names can be taken if and only if they are free and differ from each other. -/
theorem takeNames_isOk {model : String} {taken : TakenNames} {kept : List Association} :
    (∃ taken', takeNames model taken kept = .ok taken') ↔
      (kept.map fun a => goName a.name).Nodup ∧ ∀ a ∈ kept, goName a.name ∉ taken.map Prod.fst := by
  induction kept generalizing taken with
  | nil => simp [takeNames]
  | cons a rest ih =>
    by_cases ha : goName a.name ∈ taken.map Prod.fst
    · obtain ⟨earlier, -, he⟩ :=
        TakenNames.take_taken ha model ("association '" ++ a.name ++ "'")
      constructor
      · rintro ⟨taken', h⟩
        rw [takeNames, he] at h
        cases h
      · rintro ⟨-, h⟩
        exact absurd ha (h a List.mem_cons_self)
    · rw [takeNames, TakenNames.take_free ha]
      simp only [bind, Except.bind, ih, List.map_cons, List.nodup_cons, List.mem_map, not_exists,
        not_and, List.mem_cons, not_or, forall_eq_or_imp]
      simp only [List.mem_map, not_exists, not_and] at ha
      constructor
      · rintro ⟨hn, hr⟩
        exact ⟨⟨fun b hb he => (hr b hb).1 he, hn⟩, ha, fun b hb => (hr b hb).2⟩
      · rintro ⟨⟨hne, hn⟩, -, hr⟩
        exact ⟨hn, fun b hb => ⟨hne b hb, hr b hb⟩⟩

/-! ## Whether a model can be represented -/

/-- The column fields of a model that can be represented with these associations. -/
def check (m : Model) (kept : List Association) : Except Obstacle (List GoField) := do
  if let some fault := m.keyFault? then throw (.fault fault)
  let (columns, taken) ← columnFields m.name methodNames m.columns
  let _ ← (takeNames m.name taken kept).mapError .fault
  return columns

/-- The fields of columns are theirs, in order, each for the type that its column names. -/
theorem forall₂_columnFields {model : String} {taken taken' : TakenNames} {columns : List Column}
    {fields : List GoField} (h : columnFields model taken columns = .ok (fields, taken')) :
    List.Forall₂ (fun c f => ∃ t, ColumnType.ofName? c.sourceType = some t ∧ c.field t = .ok f)
      columns fields := by
  induction columns generalizing taken taken' fields with
  | nil =>
    cases h
    exact .nil
  | cons c rest ih =>
    simp only [columnFields, bind, Except.bind] at h
    split at h
    · cases h
    · next f hf =>
      split at h
      · cases h
      · split at h
        · cases h
        · next r hr =>
          cases h
          exact .cons (Column.toField_eq_ok.1 hf) (ih hr)

theorem length_columnFields {model : String} {taken taken' : TakenNames} {columns : List Column}
    {fields : List GoField} (h : columnFields model taken columns = .ok (fields, taken')) :
    fields.length = columns.length :=
  (forall₂_columnFields h).length_eq.symm

/-- A model can be represented if its key columns fit and all its names can be taken. -/
theorem check_eq_ok {m : Model} {kept : List Association} {columns : List GoField} :
    m.check kept = .ok columns ↔ m.keyFault? = none ∧ ∃ taken,
      columnFields m.name methodNames m.columns = .ok (columns, taken) ∧
        ∃ t, takeNames m.name taken kept = .ok t := by
  unfold check
  cases m.keyFault? with
  | some fault => simp [throw, throwThe, MonadExceptOf.throw, bind, Except.bind]
  | none =>
    cases columnFields m.name methodNames m.columns with
    | error fault => simp [bind, Except.bind]
    | ok c =>
      obtain ⟨cs, taken⟩ := c
      cases ht : takeNames m.name taken kept with
      | error fault =>
        constructor
        · intro h
          simp [ht, bind, Except.bind, Except.mapError] at h
        · rintro ⟨-, taken', hc, t, ht'⟩
          cases hc
          rw [ht] at ht'
          cases ht'
      | ok t =>
        simp only [ht, bind, Except.bind, Except.mapError, pure, Except.pure, Except.ok.injEq,
          true_and]
        constructor
        · rintro rfl
          exact ⟨taken, rfl, t, ht⟩
        · rintro ⟨taken', hc, -⟩
          cases hc
          rfl

theorem length_of_check {m : Model} {kept : List Association} {columns : List GoField}
    (h : m.check kept = .ok columns) : columns.length = m.columns.length := by
  obtain ⟨-, taken, hc, -⟩ := check_eq_ok.1 h
  exact length_columnFields hc

/-- The struct of a model with the given column fields and links. -/
def struct (m : Model) (columns : List GoField) (links : List Link) : GoStruct where
  name := goName m.name
  tableName := m.tableName
  fields := columns ++ links.map Link.field
  imports := importsOf (columns ++ links.map Link.field)

theorem synthesize_eq (m : Model) (links : List Link) :
    m.synthesize links = (m.check (links.map (·.association))).map fun cs => m.struct cs links := by
  unfold synthesize check
  cases m.keyFault? with
  | some fault => rfl
  | none =>
    simp only []
    cases columnFields m.name methodNames m.columns with
    | error fault => rfl
    | ok c =>
      obtain ⟨columns, taken⟩ := c
      simp only [bind, Except.bind, linkFields_eq]
      cases takeNames m.name taken (links.map (·.association)) <;> rfl

/-- A struct has the fields of the columns of its model and of the links. -/
theorem struct_of_synthesize {m : Model} {links : List Link} {s : GoStruct}
    (h : m.synthesize links = .ok s) :
    ∃ columns, s = m.struct columns links ∧
      List.Forall₂ (fun c f => ∃ t, ColumnType.ofName? c.sourceType = some t ∧ c.field t = .ok f)
        m.columns columns := by
  rw [synthesize_eq] at h
  cases hc : m.check (links.map (·.association)) with
  | error fault =>
    rw [hc] at h
    cases h
  | ok columns =>
    rw [hc] at h
    cases h
    obtain ⟨-, taken, hfields, -⟩ := check_eq_ok.1 hc
    exact ⟨columns, rfl, forall₂_columnFields hfields⟩

/-- The columns of a model that has a struct name types, and have their fields. -/
theorem exists_type {m : Model} {links : List Link} {s : GoStruct}
    (h : m.synthesize links = .ok s) {c : Column} (hc : c ∈ m.columns) :
    ∃ t f, ColumnType.ofName? c.sourceType = some t ∧ c.field t = .ok f := by
  obtain ⟨columns, -, hcolumns⟩ := struct_of_synthesize h
  clear h
  generalize m.columns = cs at hc hcolumns
  induction hcolumns with
  | nil => cases hc
  | cons hfield _ ih =>
    obtain ⟨t, ht, hf⟩ := hfield
    rcases List.mem_cons.1 hc with rfl | hc
    · exact ⟨t, _, ht, hf⟩
    · exact ih hc

/-- A field of a struct is that of a column, for the type that the column names, or that of a link. -/
theorem mem_fields_iff {m : Model} {links : List Link} {s : GoStruct}
    (h : m.synthesize links = .ok s) {f : GoField} : f ∈ s.fields ↔
      (∃ c ∈ m.columns, ∃ t, ColumnType.ofName? c.sourceType = some t ∧ c.field t = .ok f) ∨
        ∃ l ∈ links, f = l.field := by
  obtain ⟨columns, rfl, hcolumns⟩ := struct_of_synthesize h
  have hmem : f ∈ columns ↔
      ∃ c ∈ m.columns, ∃ t, ColumnType.ofName? c.sourceType = some t ∧ c.field t = .ok f := by
    clear h
    generalize m.columns = cs at hcolumns
    induction hcolumns with
    | nil => simp
    | @cons c g cs gs hc _ ih =>
      obtain ⟨t, ht, hg⟩ := hc
      -- A column names one type only.
      have hown : (∃ u, ColumnType.ofName? c.sourceType = some u ∧ c.field u = .ok f) ↔
          f = g := by simp [ht, hg, eq_comm]
      simp only [List.mem_cons, ih, or_and_right, exists_or, exists_eq_left, hown]
  rw [struct, List.mem_append, hmem, List.mem_map]
  simp only [eq_comm]

theorem exists_struct {m : Model} {links : List Link} (h : (m.synthesize links).isOk = true) :
    ∃ s, m.synthesize links = .ok s := by
  cases hs : m.synthesize links with
  | error fault =>
    rw [hs] at h
    cases h
  | ok s => exact ⟨s, rfl⟩

/-- A model that can be represented can be represented with fewer associations. -/
theorem check_sublist {m : Model} {kept kept' : List Association} {columns : List GoField}
    (hs : kept'.Sublist kept) (h : m.check kept = .ok columns) : m.check kept' = .ok columns := by
  rw [check_eq_ok] at h ⊢
  obtain ⟨hkey, taken, hc, hfree⟩ := h
  refine ⟨hkey, taken, hc, ?_⟩
  rw [takeNames_isOk] at hfree ⊢
  exact ⟨hfree.1.sublist (hs.map _), fun a ha => hfree.2 a (hs.subset ha)⟩

end Model

end StructGen
