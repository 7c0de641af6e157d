import StructGen.Proofs.Keyed
import StructGen.Proofs.Synthesis
/-!
# Which models can be represented

The sources of field names, columns before links, take their names one after the other, and the first
that cannot go on decides what stops the model. `synthesize_outcome`: a model is represented if and
only if it has one key, all its column types are known, every integer that a column shows can be
written and no name is taken twice; otherwise the first obstacle stops it, and of two sources with one
name the fault tells the one that has it and the one that asks for it.
-/
namespace StructGen

open Number

/-! ## Taking names -/

namespace TakenNames

variable {taken taken' : TakenNames} {model name source : String} {fault : Fault}

def Distinct (taken : TakenNames) : Prop :=
  (taken.map Prod.fst).Nodup

/-- What is taken when these sources have taken their names in order. -/
def after (taken : TakenNames) (sources : List (String × String)) : TakenNames :=
  sources.reverse ++ taken

theorem after_cons (taken : TakenNames) (s : String × String) (sources : List (String × String)) :
    taken.after (s :: sources) = after (s :: taken) sources := by
  simp [after]

theorem after_append (taken : TakenNames) (sources later : List (String × String)) :
    taken.after (sources ++ later) = (taken.after sources).after later := by
  simp [after]

theorem mem_after {sources : List (String × String)} {e : String × String} :
    e ∈ taken.after sources ↔ e ∈ taken ++ sources := by
  simp [after, or_comm]

theorem distinct_cons {s : String × String} : Distinct (s :: taken) ↔
    s.1 ∉ taken.map Prod.fst ∧ taken.Distinct :=
  List.nodup_cons

/-- Sources can take their names if these are free and differ from each other. -/
theorem distinct_after_iff {sources : List (String × String)} (hd : taken.Distinct) :
    (taken.after sources).Distinct ↔
      (sources.map Prod.fst).Nodup ∧ ∀ s ∈ sources, s.1 ∉ taken.map Prod.fst := by
  have hnames : (taken.after sources).map Prod.fst =
      (sources.map Prod.fst).reverse ++ taken.map Prod.fst := by
    simp [after]
  rw [Distinct, hnames, List.nodup_append, List.nodup_reverse]
  refine and_congr_right fun _ => ⟨fun ⟨_, h⟩ s hs hmem => ?_, fun h => ⟨hd, fun a ha b hb => ?_⟩⟩
  · exact h s.1 (List.mem_reverse.2 (List.mem_map_of_mem hs)) s.1 hmem rfl
  · rintro rfl
    obtain ⟨s, hs, rfl⟩ := List.mem_map.1 (List.mem_reverse.1 ha)
    exact h s hs hb

theorem Distinct.of_after {sources : List (String × String)} (h : (taken.after sources).Distinct) :
    taken.Distinct :=
  h.sublist ((List.sublist_append_right _ _).map _)

theorem take_eq_ok : taken.take model name source = .ok taken' ↔
    name ∉ taken.map Prod.fst ∧ taken' = (name, source) :: taken := by
  by_cases hname : name ∈ taken.map Prod.fst
  · obtain ⟨earlier, -, he⟩ := take_taken hname model source
    simp [he, hname]
  · rw [take_free hname, and_iff_right hname, Except.ok.injEq, eq_comm]

/-- A name that is refused has one holder, and the fault tells it. -/
theorem take_eq_error (hd : taken.Distinct) : taken.take model name source = .error fault ↔
    ∃ earlier, (name, earlier) ∈ taken ∧ fault = .nameCollision model name [earlier, source] := by
  constructor
  · intro h
    by_cases hname : name ∈ taken.map Prod.fst
    · obtain ⟨earlier, he, htake⟩ := take_taken hname model source
      rw [htake] at h
      exact ⟨earlier, he, (Except.error.inj h).symm⟩
    · rw [take_free hname] at h
      cases h
  · rintro ⟨earlier, he, rfl⟩
    obtain ⟨other, ho, htake⟩ := take_taken (List.mem_map_of_mem (f := Prod.fst) he) model source
    rw [htake, Keyed.eq_of_mem hd he ho]

end TakenNames

/-- Names that the fields of a struct can have: they differ from each other and from the methods. -/
def FreeNames (names : List String) : Prop :=
  names.Nodup ∧ "TableName" ∉ names

instance (names : List String) : Decidable (FreeNames names) :=
  inferInstanceAs (Decidable (_ ∧ _))

theorem distinct_methodNames : methodNames.Distinct :=
  List.nodup_singleton _

theorem distinct_after_methodNames {sources : List (String × String)} :
    (methodNames.after sources).Distinct ↔ FreeNames (sources.map Prod.fst) := by
  have hmethods : methodNames.map Prod.fst = ["TableName"] := rfl
  rw [TakenNames.distinct_after_iff distinct_methodNames, FreeNames, hmethods]
  refine and_congr_right fun _ => ⟨fun h hmem => ?_, fun h s hs hname => h ?_⟩
  · obtain ⟨s, hs, hname⟩ := List.mem_map.1 hmem
    exact h s hs (List.mem_singleton.2 hname)
  · rw [← List.mem_singleton.1 hname]
    exact List.mem_map_of_mem hs

/-- Where a list stops first: at its head, or after it. -/
theorem exists_split_cons {α : Type} {p : List α → α → Prop} {x : α} {rest : List α} :
    (∃ before y after, x :: rest = before ++ y :: after ∧ p before y) ↔
      p [] x ∨ ∃ before y after, rest = before ++ y :: after ∧ p (x :: before) y := by
  constructor
  · rintro ⟨before, y, after, hsplit, hp⟩
    rcases List.cons_eq_append_iff.1 hsplit with ⟨rfl, hcons⟩ | ⟨before, rfl, rfl⟩
    · obtain ⟨rfl, rfl⟩ := List.cons.inj hcons
      exact .inl hp
    · exact .inr ⟨before, y, after, rfl, hp⟩
  · rintro (hp | ⟨before, y, after, rfl, hp⟩)
    · exact ⟨[], x, rest, rfl, hp⟩
    · exact ⟨x :: before, y, after, rfl, hp⟩

/-! ## Columns -/

namespace Column

variable {c : Column} {model : String} {taken : TakenNames} {obstacle : Obstacle}

def HasType (c : Column) : Prop :=
  Text.lower (Text.trim c.sourceType) ∈ ColumnType.all.map (·.name)

instance (c : Column) : Decidable c.HasType :=
  inferInstanceAs (Decidable (_ ∈ _))

/-- The field name that a column asks for, and how the column is told in a fault. -/
def nameSource (c : Column) : String × String :=
  (goName c.name, "column '" ++ c.name ++ "'")

/-- What stops a column when these names are taken: its type, or else an integer that it shows, or
else its name. -/
def Stops (model : String) (taken : TakenNames) (c : Column) (obstacle : Obstacle) : Prop :=
  ¬c.HasType ∧
      obstacle = .fault (.unsupportedType c.sourceType (some (model ++ "." ++ c.name)) none) ∨
    c.HasType ∧ ¬c.IsShort ∧ obstacle = .digits .tooManyDigits ∨
    c.HasType ∧ c.IsShort ∧ ∃ earlier, (goName c.name, earlier) ∈ taken ∧
      obstacle = .fault (.nameCollision model (goName c.name) [earlier, c.nameSource.2])

theorem hasType_iff : c.HasType ↔ ∃ t, ColumnType.ofName? c.sourceType = some t := by
  rw [← Option.isSome_iff_exists, ColumnType.ofName?, List.find?_isSome, HasType, List.mem_map]
  simp

theorem toField_of_hasType (htype : c.HasType) (hshort : c.IsShort) (model : String) :
    ∃ f, f.name = goName c.name ∧ c.toField model = .ok f := by
  obtain ⟨t, ht⟩ := hasType_iff.1 htype
  obtain ⟨f, hf⟩ := (exists_field (t := t)).2 hshort
  obtain ⟨settings, -, rfl⟩ := field_eq_ok.1 hf
  exact ⟨_, rfl, toField_eq_ok.2 ⟨t, ht, hf⟩⟩

theorem toField_of_not_hasType (h : ¬c.HasType) : c.toField model =
    .error (.fault (.unsupportedType c.sourceType (some (model ++ "." ++ c.name)) none)) := by
  have hnone : ColumnType.ofName? c.sourceType = none := by
    rw [← Option.not_isSome_iff_eq_none, Option.isSome_iff_exists, ← hasType_iff]
    exact h
  simp [toField, ColumnType.find, hnone, bind, Except.bind, Except.mapError]

theorem toField_of_not_isShort (htype : c.HasType) (hshort : ¬c.IsShort) :
    c.toField model = .error (.digits .tooManyDigits) := by
  obtain ⟨t, ht⟩ := hasType_iff.1 htype
  simp [toField, ColumnType.find, ht, field_eq_error hshort, bind, Except.bind, Except.mapError]

/-- The column has a field, and its name is free. -/
structure Passes (taken : TakenNames) (c : Column) : Prop where
  type : c.HasType
  short : c.IsShort
  free : c.nameSource.1 ∉ taken.map Prod.fst

theorem stops_or (model : String) (taken : TakenNames) (c : Column) :
    (∃ obstacle, c.Stops model taken obstacle) ∨ c.Passes taken := by
  by_cases htype : c.HasType
  · by_cases hshort : c.IsShort
    · by_cases hname : goName c.name ∈ taken.map Prod.fst
      · obtain ⟨⟨_, earlier⟩, he, rfl⟩ := List.mem_map.1 hname
        exact .inl ⟨_, .inr (.inr ⟨htype, hshort, earlier, he, rfl⟩)⟩
      · exact .inr ⟨htype, hshort, hname⟩
    · exact .inl ⟨_, .inr (.inl ⟨htype, hshort, rfl⟩)⟩
  · exact .inl ⟨_, .inl ⟨htype, rfl⟩⟩

theorem Stops.not_passes (h : c.Stops model taken obstacle) : ¬c.Passes taken := by
  rintro ⟨htype, hshort, hfree⟩
  rcases h with ⟨hnot, -⟩ | ⟨-, hnot, -⟩ | ⟨-, -, earlier, he, -⟩
  · exact hnot htype
  · exact hnot hshort
  · exact hfree (List.mem_map.2 ⟨_, he, rfl⟩)

/-- Columns take their fields and the next one stops. -/
structure StopsAfter (model : String) (taken : TakenNames) (before : List Column) (c : Column)
    (obstacle : Obstacle) : Prop where
  types : ∀ b ∈ before, b.HasType
  short : ∀ b ∈ before, b.IsShort
  distinct : (taken.after (before.map nameSource)).Distinct
  stops : c.Stops model (taken.after (before.map nameSource)) obstacle

theorem stopsAfter_cons {b : Column} {before : List Column} :
    StopsAfter model taken (b :: before) c obstacle ↔
      b.HasType ∧ b.IsShort ∧ StopsAfter model (b.nameSource :: taken) before c obstacle := by
  constructor
  · rintro ⟨htypes, hshort, hd, hstops⟩
    obtain ⟨htype, htypes⟩ := List.forall_mem_cons.1 htypes
    obtain ⟨hfirst, hshort⟩ := List.forall_mem_cons.1 hshort
    rw [List.map_cons, TakenNames.after_cons] at hd hstops
    exact ⟨htype, hfirst, htypes, hshort, hd, hstops⟩
  · rintro ⟨htype, hfirst, htypes, hshort, hd, hstops⟩
    rw [← TakenNames.after_cons, ← List.map_cons] at hd hstops
    exact ⟨List.forall_mem_cons.2 ⟨htype, htypes⟩, List.forall_mem_cons.2 ⟨hfirst, hshort⟩, hd,
      hstops⟩

end Column

namespace Model

variable {model : String} {taken taken' : TakenNames} {c : Column} {columns : List Column}
  {fields : List GoField} {obstacle : Obstacle}

theorem columnFields_cons_stop (hd : taken.Distinct) (h : c.Stops model taken obstacle)
    (rest : List Column) :
    columnFields model taken (c :: rest) = .error obstacle := by
  rw [columnFields]
  rcases h with ⟨htype, rfl⟩ | ⟨htype, hshort, rfl⟩ | ⟨htype, hshort, earlier, he, rfl⟩
  · rw [Column.toField_of_not_hasType htype]
    rfl
  · rw [Column.toField_of_not_isShort htype hshort]
    rfl
  · obtain ⟨f, hname, hf⟩ := Column.toField_of_hasType htype hshort model
    have htake : taken.take model (goName c.name) ("column '" ++ c.name ++ "'") =
        .error (.nameCollision model (goName c.name) [earlier, "column '" ++ c.name ++ "'"]) :=
      (TakenNames.take_eq_error hd).2 ⟨earlier, he, rfl⟩
    simp [hf, hname, htake, bind, Except.bind, Except.mapError, Column.nameSource]

theorem columnFields_cons_pass (h : c.Passes taken) (model : String) (rest : List Column) :
    ∃ f, f.name = goName c.name ∧ columnFields model taken (c :: rest) =
      (columnFields model (c.nameSource :: taken) rest).map fun r => (f :: r.1, r.2) := by
  obtain ⟨f, hname, hf⟩ := Column.toField_of_hasType h.type h.short model
  refine ⟨f, hname, ?_⟩
  have htake := TakenNames.take_free h.free model c.nameSource.2
  rw [columnFields, hf]
  simp only [Column.nameSource] at htake ⊢
  simp only [bind, Except.bind, Except.mapError, hname, htake]
  cases columnFields model ((goName c.name, "column '" ++ c.name ++ "'") :: taken) rest <;> rfl

/-- Columns that get their fields have known types, integers that can be written, free names and
fields of these names. -/
theorem columnFields_eq_ok (hd : taken.Distinct)
    (h : columnFields model taken columns = .ok (fields, taken')) :
    (∀ c ∈ columns, c.HasType) ∧ (∀ c ∈ columns, c.IsShort) ∧
      (taken.after (columns.map Column.nameSource)).Distinct ∧
      taken' = taken.after (columns.map Column.nameSource) ∧
      fields.map (·.name) = columns.map fun c => goName c.name := by
  induction columns generalizing taken fields with
  | nil =>
    cases h
    exact ⟨by simp, by simp, hd, rfl, rfl⟩
  | cons c rest ih =>
    rcases Column.stops_or model taken c with ⟨obstacle, hstop⟩ | hpasses
    · rw [columnFields_cons_stop hd hstop rest] at h
      cases h
    · obtain ⟨f, hname, hpass⟩ := columnFields_cons_pass hpasses model rest
      rw [hpass] at h
      cases hr : columnFields model (c.nameSource :: taken) rest with
      | error obstacle =>
        rw [hr] at h
        cases h
      | ok r =>
        rw [hr] at h
        cases h
        obtain ⟨htypes, hshort, hafter, htaken, hnames⟩ :=
          ih (TakenNames.distinct_cons.2 ⟨hpasses.free, hd⟩) hr
        rw [List.map_cons, TakenNames.after_cons]
        exact ⟨List.forall_mem_cons.2 ⟨hpasses.type, htypes⟩,
          List.forall_mem_cons.2 ⟨hpasses.short, hshort⟩, hafter, htaken, by simp [hname, hnames]⟩

theorem exists_columnFields (model : String) (htypes : ∀ c ∈ columns, c.HasType)
    (hshort : ∀ c ∈ columns, c.IsShort)
    (hd : (taken.after (columns.map Column.nameSource)).Distinct) :
    ∃ r, columnFields model taken columns = .ok r := by
  induction columns generalizing taken with
  | nil => exact ⟨([], taken), rfl⟩
  | cons c rest ih =>
    obtain ⟨htype, htypes⟩ := List.forall_mem_cons.1 htypes
    obtain ⟨hfirst, hshort⟩ := List.forall_mem_cons.1 hshort
    rw [List.map_cons, TakenNames.after_cons] at hd
    have hfree := (TakenNames.distinct_cons.1 hd.of_after).1
    obtain ⟨f, -, hpass⟩ := columnFields_cons_pass ⟨htype, hfirst, hfree⟩ model rest
    obtain ⟨r, hr⟩ := ih htypes hshort hd
    exact ⟨_, by rw [hpass, hr]; rfl⟩

/-- The first column that stops decides the obstacle. -/
theorem columnFields_eq_error (hd : taken.Distinct) :
    columnFields model taken columns = .error obstacle ↔ ∃ before c after,
      columns = before ++ c :: after ∧ Column.StopsAfter model taken before c obstacle := by
  induction columns generalizing taken with
  | nil => simp [columnFields]
  | cons c rest ih =>
    rw [exists_split_cons]
    simp only [Column.stopsAfter_cons]
    rcases Column.stops_or model taken c with ⟨obstacle', hstop⟩ | hpasses
    · rw [columnFields_cons_stop hd hstop rest, Except.error.injEq]
      constructor
      · rintro rfl
        exact .inl ⟨by simp, by simp, hd, hstop⟩
      · rintro (h | ⟨before, _, _, _, htype, hshort, h⟩)
        · have hfirst := columnFields_cons_stop hd h.stops rest
          rw [columnFields_cons_stop hd hstop rest] at hfirst
          exact Except.error.inj hfirst
        · have hfree := (TakenNames.distinct_cons.1 h.distinct.of_after).1
          exact absurd ⟨htype, hshort, hfree⟩ hstop.not_passes
    · obtain ⟨f, -, hpass⟩ := columnFields_cons_pass hpasses model rest
      have hrest : columnFields model taken (c :: rest) = .error obstacle ↔
          columnFields model (c.nameSource :: taken) rest = .error obstacle := by
        rw [hpass, map_eq_error]
      rw [hrest, ih (TakenNames.distinct_cons.2 ⟨hpasses.free, hd⟩)]
      simp only [hpasses.type, hpasses.short, true_and]
      refine (or_iff_right ?_).symm
      exact fun h => h.stops.not_passes hpasses

end Model

/-! ## Associations -/

namespace Association

variable {a : Association} {model : String} {taken : TakenNames} {fault : Fault}

/-- The field name that an association asks for, and how it is told in a fault. -/
def nameSource (a : Association) : String × String :=
  (goName a.name, "association '" ++ a.name ++ "'")

/-- Associations take their names and the next one finds its name taken. -/
structure StopsAfter (model : String) (taken : TakenNames) (before : List Association)
    (a : Association) (fault : Fault) : Prop where
  distinct : (taken.after (before.map nameSource)).Distinct
  stops : ∃ earlier, (goName a.name, earlier) ∈ taken.after (before.map nameSource) ∧
    fault = .nameCollision model (goName a.name) [earlier, a.nameSource.2]

theorem stopsAfter_cons {b : Association} {before : List Association} :
    StopsAfter model taken (b :: before) a fault ↔
      StopsAfter model (b.nameSource :: taken) before a fault := by
  constructor
  · rintro ⟨hd, hstops⟩
    rw [List.map_cons, TakenNames.after_cons] at hd hstops
    exact ⟨hd, hstops⟩
  · rintro ⟨hd, hstops⟩
    rw [← TakenNames.after_cons, ← List.map_cons] at hd hstops
    exact ⟨hd, hstops⟩

end Association

namespace Model

variable {model : String} {taken : TakenNames} {kept : List Association} {fault : Fault}

/-- The first association whose name is taken decides the fault. -/
theorem takeNames_eq_error (hd : taken.Distinct) :
    takeNames model taken kept = .error fault ↔ ∃ before a after,
      kept = before ++ a :: after ∧ Association.StopsAfter model taken before a fault := by
  induction kept generalizing taken with
  | nil => simp [takeNames]
  | cons a rest ih =>
    rw [exists_split_cons]
    simp only [Association.stopsAfter_cons]
    have hfirst : Association.StopsAfter model taken [] a fault ↔
        taken.take model (goName a.name) a.nameSource.2 = .error fault := by
      rw [TakenNames.take_eq_error hd]
      exact ⟨fun h => h.stops, fun h => ⟨hd, h⟩⟩
    rw [hfirst, takeNames]
    cases htake : taken.take model (goName a.name) a.nameSource.2 with
    | error fault' =>
      obtain ⟨earlier, he, -⟩ := (TakenNames.take_eq_error hd).1 htake
      have hlater : ¬∃ before b after, rest = before ++ b :: after ∧
          Association.StopsAfter model (a.nameSource :: taken) before b fault := by
        rintro ⟨before, b, after, -, h⟩
        exact (TakenNames.distinct_cons.1 h.distinct.of_after).1 (List.mem_map.2 ⟨_, he, rfl⟩)
      rw [or_iff_left hlater]
      rw [Association.nameSource] at htake
      simp [htake, bind, Except.bind]
    | ok taken' =>
      obtain ⟨hfree, rfl⟩ := TakenNames.take_eq_ok.1 htake
      rw [or_iff_right (by simp)]
      rw [Association.nameSource] at htake
      simp only [htake, bind, Except.bind]
      exact ih (TakenNames.distinct_cons.2 ⟨hfree, hd⟩)

/-! ## Models -/

def fieldNames (m : Model) (links : List Link) : List String :=
  m.columns.map (fun c => goName c.name) ++ links.map fun l => goName l.association.name

structure Representable (m : Model) (links : List Link) : Prop where
  key : m.keys.length = 1
  types : ∀ c ∈ m.columns, c.HasType
  short : ∀ c ∈ m.columns, c.IsShort
  names : FreeNames (m.fieldNames links)

/-- What a model with these links is stopped by: its keys, else the first column that stops, else the
first association that stops. -/
inductive RefusedFor (m : Model) (links : List Link) : Obstacle → Prop
  | noKey (hkeys : m.keys = []) :
    RefusedFor m links (.fault (.unsupportedSchema m.name "no primary key column"))
  | manyKeys (hkeys : 2 ≤ m.keys.length) :
    RefusedFor m links (.fault (.unsupportedSchema m.name
      ("composite primary key (" ++ String.intercalate ", " (m.keys.map (·.name)) ++ ")")))
  | column {before c after obstacle} (hkey : m.keys.length = 1)
    (hsplit : m.columns = before ++ c :: after)
    (hstops : Column.StopsAfter m.name methodNames before c obstacle) :
    RefusedFor m links obstacle
  | association {before a after fault} (hkey : m.keys.length = 1)
    (htypes : ∀ c ∈ m.columns, c.HasType) (hshort : ∀ c ∈ m.columns, c.IsShort)
    (hsplit : links.map (·.association) = before ++ a :: after)
    (hstops : Association.StopsAfter m.name
      (methodNames.after (m.columns.map Column.nameSource)) before a fault) :
    RefusedFor m links (.fault fault)

variable {m : Model} {links : List Link} {obstacle : Obstacle}

theorem keyFault?_eq_none : m.keyFault? = none ↔ m.keys.length = 1 := by
  unfold keyFault?
  rcases hkeys : m.keys with _ | ⟨a, _ | ⟨b, rest⟩⟩ <;> simp

theorem keyFault?_eq_some : m.keyFault? = some fault ↔
    m.keys = [] ∧ fault = .unsupportedSchema m.name "no primary key column" ∨
      2 ≤ m.keys.length ∧ fault = .unsupportedSchema m.name
        ("composite primary key (" ++ String.intercalate ", " (m.keys.map (·.name)) ++ ")") := by
  unfold keyFault?
  rcases hkeys : m.keys with _ | ⟨a, _ | ⟨b, rest⟩⟩ <;> simp [eq_comm]

theorem check_eq_error {kept : List Association} : m.check kept = .error obstacle ↔
    (∃ fault, m.keyFault? = some fault ∧ obstacle = .fault fault) ∨ m.keyFault? = none ∧
      (columnFields m.name methodNames m.columns = .error obstacle ∨
        ∃ r, columnFields m.name methodNames m.columns = .ok r ∧
          ∃ fault, takeNames m.name r.2 kept = .error fault ∧ obstacle = .fault fault) := by
  unfold check
  cases m.keyFault? with
  | some keyFault => simp [throw, throwThe, MonadExceptOf.throw, bind, Except.bind, eq_comm]
  | none =>
    cases hc : columnFields m.name methodNames m.columns with
    | error obstacle' => simp [bind, Except.bind]
    | ok r =>
      cases ht : takeNames m.name r.2 kept <;>
        simp [ht, bind, Except.bind, pure, Except.pure, Except.mapError, eq_comm]

theorem synthesize_eq_error : m.synthesize links = .error obstacle ↔ RefusedFor m links obstacle := by
  rw [synthesize_eq, map_eq_error, check_eq_error, keyFault?_eq_none]
  simp only [keyFault?_eq_some]
  constructor
  · rintro (⟨_, ⟨hkeys, rfl⟩ | ⟨hkeys, rfl⟩, rfl⟩ |
      ⟨hkey, hcolumns | ⟨⟨fields, taken⟩, hfields, fault, htake, rfl⟩⟩)
    · exact .noKey hkeys
    · exact .manyKeys hkeys
    · obtain ⟨before, c, after, hsplit, hstops⟩ :=
        (columnFields_eq_error distinct_methodNames).1 hcolumns
      exact .column hkey hsplit hstops
    · obtain ⟨htypes, hshort, hd, rfl, -⟩ := columnFields_eq_ok distinct_methodNames hfields
      obtain ⟨before, a, after, hsplit, hstops⟩ := (takeNames_eq_error hd).1 htake
      exact .association hkey htypes hshort hsplit hstops
  · intro h
    cases h with
    | noKey hkeys => exact .inl ⟨_, .inl ⟨hkeys, rfl⟩, rfl⟩
    | manyKeys hkeys => exact .inl ⟨_, .inr ⟨hkeys, rfl⟩, rfl⟩
    | column hkey hsplit hstops =>
      exact .inr ⟨hkey, .inl ((columnFields_eq_error distinct_methodNames).2
        ⟨_, _, _, hsplit, hstops⟩)⟩
    | association hkey htypes hshort hsplit hstops =>
      -- An association stops only after all columns have their names.
      obtain ⟨⟨fields, taken⟩, hfields⟩ := exists_columnFields m.name htypes hshort
        hstops.distinct.of_after
      obtain ⟨-, -, hd, rfl, -⟩ := columnFields_eq_ok distinct_methodNames hfields
      exact .inr ⟨hkey, .inr ⟨_, hfields, _,
        (takeNames_eq_error hd).2 ⟨_, _, _, hsplit, hstops⟩, rfl⟩⟩

theorem exists_takeNames (hd : taken.Distinct) : (∃ taken', takeNames model taken kept = .ok taken') ↔
    (taken.after (kept.map Association.nameSource)).Distinct := by
  rw [takeNames_isOk, TakenNames.distinct_after_iff hd, List.map_map, List.forall_mem_map]
  rfl

/-- The sources of field names ask for the names of the fields. -/
theorem distinct_sources_iff : ((methodNames.after (m.columns.map Column.nameSource)).after
    ((links.map (·.association)).map Association.nameSource)).Distinct ↔
      FreeNames (m.fieldNames links) := by
  rw [← TakenNames.after_append, distinct_after_methodNames]
  simp [fieldNames, Column.nameSource, Association.nameSource, Function.comp_def]

theorem exists_synthesize_iff : (∃ s, m.synthesize links = .ok s) ↔ m.Representable links := by
  have hcheck : (∃ s, m.synthesize links = .ok s) ↔
      ∃ columns, m.check (links.map (·.association)) = .ok columns := by
    rw [synthesize_eq]
    cases m.check (links.map (·.association)) <;> simp [Except.map]
  rw [hcheck]
  simp only [check_eq_ok, keyFault?_eq_none]
  constructor
  · rintro ⟨fields, hkey, taken, hfields, htake⟩
    obtain ⟨htypes, hshort, hd, rfl, -⟩ := columnFields_eq_ok distinct_methodNames hfields
    exact ⟨hkey, htypes, hshort, distinct_sources_iff.1 ((exists_takeNames hd).1 htake)⟩
  · rintro ⟨hkey, htypes, hshort, hnames⟩
    have hd := distinct_sources_iff.2 hnames
    obtain ⟨⟨fields, taken⟩, hfields⟩ := exists_columnFields m.name htypes hshort hd.of_after
    obtain ⟨-, -, -, rfl, -⟩ := columnFields_eq_ok distinct_methodNames hfields
    exact ⟨fields, hkey, _, hfields, (exists_takeNames hd.of_after).2 hd⟩

theorem names_of_check {kept : List Association} {columns : List GoField}
    (h : m.check kept = .ok columns) :
    columns.map (·.name) = m.columns.map fun c => goName c.name := by
  obtain ⟨-, taken, hfields, -⟩ := check_eq_ok.1 h
  exact (columnFields_eq_ok distinct_methodNames hfields).2.2.2.2

theorem names_of_synthesize {s : GoStruct} (h : m.synthesize links = .ok s) :
    s.fields.map (·.name) = m.fieldNames links := by
  rw [synthesize_eq] at h
  cases hc : m.check (links.map (·.association)) with
  | error fault =>
    rw [hc] at h
    cases h
  | ok columns =>
    rw [hc] at h
    cases h
    simp [struct, fieldNames, names_of_check hc, Link.field]

theorem nodup_fields {s : GoStruct} (h : m.synthesize links = .ok s) :
    (s.fields.map (·.name)).Nodup := by
  rw [names_of_synthesize h]
  exact (exists_synthesize_iff.1 ⟨s, h⟩).names.1

/-- A column or an association never stops for the reason that the keys do not fit. -/
theorem RefusedFor.keys_iff (h : RefusedFor m links obstacle) :
    (∃ reason, obstacle = .fault (.unsupportedSchema m.name reason)) ↔ m.keys.length ≠ 1 := by
  cases h with
  | noKey hkeys => simp [hkeys]
  | manyKeys hkeys => simp; omega
  | column hkey _ hstops =>
    rcases hstops.stops with ⟨-, rfl⟩ | ⟨-, -, rfl⟩ | ⟨-, -, _, -, rfl⟩ <;> simp [hkey]
  | association hkey _ _ _ hstops =>
    obtain ⟨_, -, rfl⟩ := hstops.stops
    simp [hkey]

/-- A model becomes a struct if and only if it can be represented, and the fields are then named after
its columns and links in order. If it cannot, it is stopped by what it is refused for: by the fault of
its keys if and only if it has not exactly one. -/
theorem synthesize_outcome (m : Model) (links : List Link) :
    ((∃ s, m.synthesize links = .ok s) ↔ m.Representable links) ∧
      (∀ s, m.synthesize links = .ok s → s.fields.map (·.name) = m.fieldNames links) ∧
      (∀ obstacle, m.synthesize links = .error obstacle ↔ RefusedFor m links obstacle) ∧
      ∀ obstacle, m.synthesize links = .error obstacle →
        ((∃ reason, obstacle = .fault (.unsupportedSchema m.name reason)) ↔ m.keys.length ≠ 1) :=
  ⟨exists_synthesize_iff, fun _ h => names_of_synthesize h, fun _ => synthesize_eq_error,
    fun _ h => (synthesize_eq_error.1 h).keys_iff⟩

end Model

def catalogKey : Column where
  name := "id"
  sourceType := "integer"
  isPrimaryKey := true

/-- Catalogs, with one more column. -/
def catalogWith (name sourceType : String) (length : Option Int := none) : Model where
  name := "Catalog"
  tableName := "catalogs"
  columns := [catalogKey, { name, sourceType, length }]

/-- A second column is refused for its type, or for the name of a method; with another name the
catalog has a struct. -/
theorem catalog_outcome :
    (catalogWith "table_name" "uuid").synthesize [] =
        .error (.fault (.unsupportedType "uuid" (some "Catalog.table_name") none)) ∧
      (catalogWith "table_name" "string").synthesize [] = .error (.fault
        (.nameCollision "Catalog" "TableName" ["method 'TableName'", "column 'table_name'"])) ∧
      ∃ s, (catalogWith "title" " Text ").synthesize [] = .ok s ∧
        s.fields.map (·.name) = ["ID", "Title"] := by
  have hkey : catalogKey.HasType := by decide +kernel
  have hshort : ∀ name sourceType, Column.IsShort { name, sourceType } :=
    fun _ _ => ⟨nofun, nofun⟩
  have hfree : FreeNames ([catalogKey.nameSource].map Prod.fst) := by decide +kernel
  have hname : goName "table_name" = "TableName" := by decide +kernel
  have hrefused : ∀ sourceType obstacle, Column.Stops "Catalog"
      (methodNames.after [catalogKey.nameSource]) { name := "table_name", sourceType } obstacle →
        Model.RefusedFor (catalogWith "table_name" sourceType) [] obstacle := by
    intro sourceType obstacle hstops
    have hsplit : (catalogWith "table_name" sourceType).columns =
        [catalogKey] ++ [{ name := "table_name", sourceType }] := rfl
    exact .column rfl hsplit ⟨by simpa using hkey, by simpa using ⟨nofun, nofun⟩,
      distinct_after_methodNames.2 hfree, hstops⟩
  refine ⟨?_, ?_, ?_⟩
  · obtain ⟨-, -, herror, -⟩ := Model.synthesize_outcome (catalogWith "table_name" "uuid") []
    exact (herror _).2 (hrefused _ _ (.inl ⟨by decide +kernel, rfl⟩))
  · obtain ⟨-, -, herror, -⟩ := Model.synthesize_outcome (catalogWith "table_name" "string") []
    refine (herror _).2 (hrefused _ _ (.inr (.inr ⟨by decide +kernel, hshort _ _,
      "method 'TableName'", ?_, ?_⟩)))
    · rw [hname, TakenNames.mem_after]
      decide
    · rw [hname]
      rfl
  · obtain ⟨hok, hnames, -⟩ := Model.synthesize_outcome (catalogWith "title" " Text ") []
    have hcolumns : ∀ c ∈ (catalogWith "title" " Text ").columns, c.IsShort := by
      simpa [catalogWith] using ⟨⟨nofun, nofun⟩, hshort _ _⟩
    obtain ⟨s, hs⟩ := hok.2 ⟨rfl, by decide +kernel, hcolumns, by decide +kernel⟩
    refine ⟨s, hs, (hnames s hs).trans ?_⟩
    decide +kernel

/-- A catalog with one key, known types and free names has no struct if the length of a column has too
many digits. -/
theorem overlong_length_stops :
    let m := catalogWith "title" "string" (some overlong)
    m.keys.length = 1 ∧ (∀ c ∈ m.columns, c.HasType) ∧ FreeNames (m.fieldNames []) ∧
      m.synthesize [] = .error (.digits .tooManyDigits) := by
  have hfree : FreeNames ([catalogKey.nameSource].map Prod.fst) := by decide +kernel
  have hsplit : (catalogWith "title" "string" (some overlong)).columns = [catalogKey] ++
      { name := "title", sourceType := "string", length := some overlong } :: [] := rfl
  refine ⟨rfl, by decide +kernel, by decide +kernel, Model.synthesize_eq_error.2 ?_⟩
  refine .column rfl hsplit ⟨by decide +kernel, ?_, distinct_after_methodNames.2 hfree,
    .inr (.inl ⟨by decide +kernel, fun h => ?_, rfl⟩)⟩
  · simpa using ⟨nofun, nofun⟩
  · simpa [not_isShort_overlong] using h.length _ rfl

end StructGen
