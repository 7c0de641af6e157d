import StructGen.Proofs.Shapes
import StructGen.Validation.Records
/-!
# Records that are read again

Each kind of record has a shape: its fields as they are declared. The reader settles every value by
that shape, because it reads field after field and no two fields have one name; and a record that is
written and read again is the same record, because what is written for a field is what its reader takes
as it is. Both are lemmas of each record that cite those of the records in it, and `validation_exact`
says what they come to for all kinds.
-/
namespace StructGen

namespace Shape

/-- Text. -/
abbrev text : Shape := scalar .text

/-- A truth value. -/
abbrev bool : Shape := scalar .bool

/-- An integer. -/
abbrev int : Shape := scalar .int

/-- One of some names. -/
abbrev choice (names : List String) : Shape := scalar (.choice names)

end Shape

/-! ## What is written is read -/

namespace Checked

variable {α β : Type}

@[simp] theorem map_accepted (f : α → β) (a : α) : f <$> accepted a = accepted (f a) := rfl

@[simp] theorem accepted_seq (f : α → β) (a : α) : accepted f <*> accepted a = accepted (f a) := rfl

@[simp] theorem within_accepted (step : Step) (a : α) : (accepted a).within step = accepted a := rfl

end Checked

namespace Keyed

variable {α : Type} (key : String) (value : Value) (rest : Keyed Value) (name : String) (r : ReadAs α)

@[simp] theorem field_cons : Keyed.field ((key, value) :: rest) name r =
    if name = key then (r value).within (.field name) else Keyed.field rest name r := by
  by_cases h : name = key <;> simp [Keyed.field, h]

@[simp] theorem fieldOr_cons (absent : α) : Keyed.fieldOr ((key, value) :: rest) name absent r =
    if name = key then (r value).within (.field name) else Keyed.fieldOr rest name absent r := by
  by_cases h : name = key <;> simp [Keyed.fieldOr, h]

end Keyed

namespace ReadAs

@[simp] theorem any_value (v : Value) : any v = .accepted v := rfl

@[simp] theorem text_text (s : String) : text (.text s) = .accepted s := rfl

@[simp] theorem bool_bool (b : Bool) : bool (.bool b) = .accepted b := rfl

@[simp] theorem orNull_textOrNull (s : Option String) :
    orNull text (.textOrNull s) = .accepted s := by
  cases s <;> rfl

@[simp] theorem orNull_intOrNull (n : Option Int) :
    orNull int ((n.map Value.int).getD .null) = .accepted n := by
  cases n <;> rfl

@[simp] theorem record_dict {α : Type} (read : Keyed Value → Checked α) (entries : Keyed Value) :
    record read (.dict entries) = read entries := rfl

section
variable {α : Type} {r : ReadAs α} {f : α → Value}

theorem items_map (h : ∀ a, r (f a) = .accepted a) (start : Nat) (as : List α) :
    items r start (as.map f) = .accepted as := by
  induction as generalizing start with
  | nil => rfl
  | cons a as ih =>
    rw [List.map_cons, items, h, ih]
    rfl

theorem list_map (h : ∀ a, r (f a) = .accepted a) (as : List α) :
    list r (.list (as.map f)) = .accepted as :=
  items_map h 0 as

end

@[simp] theorem list_texts (ss : List String) : list text (.texts ss) = .accepted ss :=
  list_map text_text ss

end ReadAs

@[simp] theorem AssociationKind.read_name (k : AssociationKind) :
    ReadAs.choice all name (.text k.name) = .accepted k := by
  cases k <;> rfl

@[simp] theorem Cardinality.read_name (c : Cardinality) :
    ReadAs.choice all name (.text c.name) = .accepted c := by
  cases c <;> rfl

@[simp] theorem DiagnosticKind.read_name (k : DiagnosticKind) :
    ReadAs.choice all name (.text k.name) = .accepted k := by
  cases k <;> rfl

/-! ## Schemas -/

/-- A column as it is declared. -/
def Column.shape : Shape :=
  .record [⟨"name", .text, true⟩, ⟨"source_type", .text, true⟩, ⟨"nullable", .bool, false⟩,
    ⟨"has_default", .bool, false⟩, ⟨"is_primary_key", .bool, false⟩,
    ⟨"default", .scalar .any, false⟩, ⟨"length", .orNull .int, false⟩, ⟨"unique", .bool, false⟩]

open ReadAs in
theorem Column.reads : Reads Column.shape Column.read :=
  -- Each field joins those before it; what is left to see is that its name is none of theirs.
  reads_record fun d =>
    ((Settles.field reads_text d "name").map Column.mk)
      |>.seq (.field reads_text d "source_type") (by simp)
      |>.seq (.fieldOr reads_bool d "nullable" false) (by simp)
      |>.seq (.fieldOr reads_bool d "has_default" false) (by simp)
      |>.seq (.fieldOr reads_bool d "is_primary_key" false) (by simp)
      |>.seq (.fieldOr reads_any d "default" .null) (by simp)
      |>.seq (.fieldOr (reads_orNull reads_int) d "length" none) (by simp)
      |>.seq (.fieldOr reads_bool d "unique" false) (by simp)

theorem Column.read_toValue (c : Column) : Column.read c.toValue = .accepted c := by
  simp [Column.read, Column.toValue]

/-- An association as it is declared. -/
def Association.shape : Shape :=
  .record [⟨"name", .text, true⟩,
    ⟨"kind", .choice ["belongs_to", "has_one", "has_many", "has_and_belongs_to_many"], true⟩,
    ⟨"target_model", .text, true⟩, ⟨"foreign_key", .text, true⟩,
    ⟨"join_table", .orNull .text, false⟩]

open ReadAs in
theorem Association.reads : Reads Association.shape Association.read :=
  reads_record fun d =>
    ((Settles.field reads_text d "name").map Association.mk)
      |>.seq (.field (reads_choice AssociationKind.all AssociationKind.name) d "kind") (by simp)
      |>.seq (.field reads_text d "target_model") (by simp)
      |>.seq (.field reads_text d "foreign_key") (by simp)
      |>.seq (.fieldOr (reads_orNull reads_text) d "join_table" none) (by simp)

theorem Association.read_toValue (a : Association) : Association.read a.toValue = .accepted a := by
  simp [Association.read, Association.toValue]

/-- A schema as it is declared. -/
def Model.shape : Shape :=
  .record [⟨"name", .text, true⟩, ⟨"table_name", .text, true⟩,
    ⟨"columns", .list Column.shape, false⟩, ⟨"associations", .list Association.shape, false⟩]

open ReadAs in
theorem Model.reads : Reads Model.shape Model.read :=
  reads_record fun d =>
    ((Settles.field reads_text d "name").map Model.mk)
      |>.seq (.field reads_text d "table_name") (by simp)
      |>.seq (.fieldOr (reads_list Column.reads) d "columns" []) (by simp)
      |>.seq (.fieldOr (reads_list Association.reads) d "associations" []) (by simp)

theorem Model.read_toValue (m : Model) : Model.read m.toValue = .accepted m := by
  simp [Model.read, Model.toValue, ReadAs.list_map Column.read_toValue, ReadAs.list_map Association.read_toValue]

/-- A link as it is declared. -/
def Link.shape : Shape :=
  .record [⟨"association", Association.shape, true⟩, ⟨"target_struct", .text, true⟩,
    ⟨"cardinality", .choice ["single", "many"], true⟩, ⟨"by_reference", .bool, false⟩]

open ReadAs in
theorem Link.reads : Reads Link.shape Link.read :=
  reads_record fun d =>
    ((Settles.field Association.reads d "association").map Link.mk)
      |>.seq (.field reads_text d "target_struct") (by simp)
      |>.seq (.field (reads_choice Cardinality.all Cardinality.name) d "cardinality") (by simp)
      |>.seq (.fieldOr reads_bool d "by_reference" false) (by simp)

theorem Link.read_toValue (l : Link) : Link.read l.toValue = .accepted l := by
  simp [Link.read, Link.toValue, Association.read_toValue]

/-! ## Structs -/

/-- A field of a struct as it is declared. -/
def GoField.shape : Shape :=
  .record [⟨"field_name", .text, true⟩, ⟨"field_type", .text, true⟩, ⟨"tag", .text, true⟩,
    ⟨"comment", .text, false⟩]

open ReadAs in
theorem GoField.reads : Reads GoField.shape GoField.read :=
  reads_record fun d =>
    ((Settles.field reads_text d "field_name").map GoField.mk)
      |>.seq (.field reads_text d "field_type") (by simp)
      |>.seq (.field reads_text d "tag") (by simp)
      |>.seq (.fieldOr reads_text d "comment" "") (by simp)

theorem GoField.read_toValue (f : GoField) : GoField.read f.toValue = .accepted f := by
  simp [GoField.read, GoField.toValue]

/-- A struct as it is declared. -/
def GoStruct.shape : Shape :=
  .record [⟨"struct_name", .text, true⟩, ⟨"table_name", .text, true⟩,
    ⟨"fields", .list GoField.shape, false⟩, ⟨"imports", .list .text, false⟩]

open ReadAs in
theorem GoStruct.reads : Reads GoStruct.shape GoStruct.read :=
  reads_record fun d =>
    ((Settles.field reads_text d "struct_name").map GoStruct.mk)
      |>.seq (.field reads_text d "table_name") (by simp)
      |>.seq (.fieldOr (reads_list GoField.reads) d "fields" []) (by simp)
      |>.seq (.fieldOr (reads_list reads_text) d "imports" []) (by simp)

theorem GoStruct.read_toValue (s : GoStruct) : GoStruct.read s.toValue = .accepted s := by
  simp [GoStruct.read, GoStruct.toValue, ReadAs.list_map GoField.read_toValue]

/-! ## Diagnostics and connections -/

/-- A diagnostic as it is declared. -/
def Diagnostic.shape : Shape :=
  .record [⟨"model", .text, true⟩,
    ⟨"kind", .choice ["converted", "failed", "missing_association_target", "duplicate_association"], true⟩,
    ⟨"message", .text, true⟩, ⟨"code", .orNull .text, false⟩, ⟨"subject", .orNull .text, false⟩]

open ReadAs in
theorem Diagnostic.reads : Reads Diagnostic.shape Diagnostic.read :=
  reads_record fun d =>
    ((Settles.field reads_text d "model").map Diagnostic.mk)
      |>.seq (.field (reads_choice DiagnosticKind.all DiagnosticKind.name) d "kind") (by simp)
      |>.seq (.field reads_text d "message") (by simp)
      |>.seq (.fieldOr (reads_orNull reads_text) d "code" none) (by simp)
      |>.seq (.fieldOr (reads_orNull reads_text) d "subject" none) (by simp)

theorem Diagnostic.read_toValue (d : Diagnostic) : Diagnostic.read d.toValue = .accepted d := by
  simp [Diagnostic.read, Diagnostic.toValue]

/-- A connection as it is declared. -/
def Connection.shape : Shape :=
  .record [⟨"driver_name", .text, true⟩, ⟨"dsn", .text, true⟩, ⟨"driver_package", .text, true⟩]

open ReadAs in
theorem Connection.reads : Reads Connection.shape Connection.read :=
  reads_record fun d =>
    ((Settles.field reads_text d "driver_name").map Connection.mk)
      |>.seq (.field reads_text d "dsn") (by simp)
      |>.seq (.field reads_text d "driver_package") (by simp)

theorem Connection.read_toValue (c : Connection) : Connection.read c.toValue = .accepted c := by
  simp [Connection.read, Connection.toValue]

/-- Database settings as they are declared. -/
def DatabaseSettings.shape : Shape :=
  .record [⟨"adapter", .text, true⟩, ⟨"database", .text, false⟩, ⟨"host", .orNull .text, false⟩,
    ⟨"port", .orNull .int, false⟩, ⟨"username", .orNull .text, false⟩,
    ⟨"password", .orNull .text, false⟩, ⟨"encoding", .orNull .text, false⟩]

open ReadAs in
theorem DatabaseSettings.reads : Reads DatabaseSettings.shape DatabaseSettings.read :=
  reads_record fun d =>
    ((Settles.field reads_text d "adapter").map DatabaseSettings.mk)
      |>.seq (.fieldOr reads_text d "database" "") (by simp)
      |>.seq (.fieldOr (reads_orNull reads_text) d "host" none) (by simp)
      |>.seq (.fieldOr (reads_orNull reads_int) d "port" none) (by simp)
      |>.seq (.fieldOr (reads_orNull reads_text) d "username" none) (by simp)
      |>.seq (.fieldOr (reads_orNull reads_text) d "password" none) (by simp)
      |>.seq (.fieldOr (reads_orNull reads_text) d "encoding" none) (by simp)

theorem DatabaseSettings.read_toValue (s : DatabaseSettings) : DatabaseSettings.read s.toValue = .accepted s := by
  simp [DatabaseSettings.read, DatabaseSettings.toValue]

/-! ## All records -/

/-- The kinds of records that are validated. -/
inductive RecordKind
  | column
  | association
  | model
  | link
  | field
  | struct
  | diagnostic
  | connection
  | settings

namespace RecordKind

/-- The records of a kind. -/
def Record : RecordKind → Type
  | column => Column
  | association => Association
  | model => Model
  | link => Link
  | field => GoField
  | struct => GoStruct
  | diagnostic => Diagnostic
  | connection => Connection
  | settings => DatabaseSettings

/-- The shape of a kind. -/
def shape : RecordKind → Shape
  | column => Column.shape
  | association => Association.shape
  | model => Model.shape
  | link => Link.shape
  | field => GoField.shape
  | struct => GoStruct.shape
  | diagnostic => Diagnostic.shape
  | connection => Connection.shape
  | settings => DatabaseSettings.shape

/-- Reads a record of a kind. -/
def read : (k : RecordKind) → ReadAs k.Record
  | column => Column.read
  | association => Association.read
  | model => Model.read
  | link => Link.read
  | field => GoField.read
  | struct => GoStruct.read
  | diagnostic => Diagnostic.read
  | connection => Connection.read
  | settings => DatabaseSettings.read

/-- A record of a kind as a dictionary. -/
def toValue : (k : RecordKind) → k.Record → Value
  | column => Column.toValue
  | association => Association.toValue
  | model => Model.toValue
  | link => Link.toValue
  | field => GoField.toValue
  | struct => GoStruct.toValue
  | diagnostic => Diagnostic.toValue
  | connection => Connection.toValue
  | settings => DatabaseSettings.toValue

theorem reads (k : RecordKind) : Reads k.shape k.read := by
  cases k with
  | column => exact Column.reads
  | association => exact Association.reads
  | model => exact Model.reads
  | link => exact Link.reads
  | field => exact GoField.reads
  | struct => exact GoStruct.reads
  | diagnostic => exact Diagnostic.reads
  | connection => exact Connection.reads
  | settings => exact DatabaseSettings.reads

theorem read_toValue (k : RecordKind) (r : k.Record) : k.read (k.toValue r) = .accepted r := by
  cases k with
  | column => exact Column.read_toValue r
  | association => exact Association.read_toValue r
  | model => exact Model.read_toValue r
  | link => exact Link.read_toValue r
  | field => exact GoField.read_toValue r
  | struct => exact GoStruct.read_toValue r
  | diagnostic => exact Diagnostic.read_toValue r
  | connection => exact Connection.read_toValue r
  | settings => exact DatabaseSettings.read_toValue r

end RecordKind

/-- A value without a fault is read as a record, which is the same record when it is written and read
again. Any other value is refused with the positions at fault, all of them, in their order and each of
them once. -/
theorem validation_exact (k : RecordKind) (v : Value) :
    match k.read v with
    | .accepted r => (∀ p, ¬k.shape.Fault v p) ∧ k.read (k.toValue r) = .accepted r
    | .refused issues =>
      issues ≠ [] ∧ (∀ p, p ∈ issues.map Issue.path ↔ k.shape.Fault v p) ∧
        (issues.map Issue.path).Pairwise k.shape.Before ∧ (issues.map Issue.path).Nodup := by
  obtain ⟨hmem, hordered, hreason⟩ := k.reads v
  cases hread : k.read v with
  | accepted r =>
    rw [hread] at hmem
    exact ⟨fun p hp => List.not_mem_nil ((hmem p).2 hp), k.read_toValue r⟩
  | refused issues =>
    rw [hread] at hmem hordered hreason
    have hne : issues ≠ [] := by
      rintro rfl
      exact hreason rfl
    exact ⟨hne, hmem, hordered, hordered.imp Shape.Before.ne⟩

example : (Model.read (.dict [("columns", .list [.dict [("name", .text "id"), ("unique", .null)]]),
      ("table_name", .int 3)])).paths =
    [[.field "name"], [.field "table_name"],
      [.field "columns", .index 0, .field "source_type"],
      [.field "columns", .index 0, .field "unique"]] := by
  decide

end StructGen
