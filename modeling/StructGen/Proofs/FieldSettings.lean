import StructGen.Proofs.Identifiers
import StructGen.Proofs.Settings
import StructGen.Proofs.StructTags
import StructGen.Proofs.Synthesis
/-!
# The settings of fields

`Setting` lists what a field can be told about its column or association.
`synthesize_settings_read_iff`: the settings of a column's field are read exactly as they were meant
if and only if the name of the column holds no semicolon and does not end in a backslash, and those
of a many-to-many association if and only if this is so of its join table. Defaults are escaped and
all else is plain, so only these names can add, swallow or alter a setting.
-/
namespace StructGen

/-- What a field can be told about its column or association. -/
inductive Setting
  | column (name : String)
  | primaryKey
  | type (t : ColumnType)
  | notNull
  | default (v : Value)
  | unique
  | size (n : Int)
  | createTime
  | updateTime
  | manyToMany (joinTable : String)
  | joinForeignKey (key : String)
  | foreignKey (key : String)

namespace Setting

/-- What is to be read of a setting. -/
def text : Setting → String
  | column name => "column:" ++ name
  | primaryKey => "primaryKey"
  | type t => "type:" ++ t.goType.sqlType
  | notNull => "not null"
  | default v => "default:" ++ defaultText v
  | unique => "unique"
  | size n => "size:" ++ toString n
  | createTime => "autoCreateTime"
  | updateTime => "autoUpdateTime"
  | manyToMany joinTable => "many2many:" ++ joinTable
  | joinForeignKey key => "joinForeignKey:" ++ goName key
  | foreignKey key => "foreignKey:" ++ goName key

/-- What is written for a setting: only defaults are escaped. -/
def written : Setting → String
  | default v => "default:" ++ escapeSetting (defaultText v)
  | s => s.text

/-- The setting gives a name in the database, which is written as it is. -/
def IsNamed : Setting → Prop
  | column _ | manyToMany _ => True
  | _ => False

end Setting

/-- The default of a column, if it has one that is known. -/
def Column.defaultSettings (c : Column) : List Setting :=
  match c.hasDefault, c.defaultValue with
  | true, .null => []
  | true, v => [.default v]
  | false, _ => []

/-- The length of a column, if it has one. -/
def Column.sizeSettings (c : Column) : List Setting :=
  match c.length with
  | some n => if n = 0 then [] else [.size n]
  | none => []

/-- The time that a column keeps, by its name. -/
def Column.timeSettings (c : Column) : List Setting :=
  if c.name = "created_at" ∨ c.name = "created_on" then [.createTime]
  else if c.name = "updated_at" ∨ c.name = "updated_on" then [.updateTime]
  else []

/-- The settings of a column whose type is `t`, after its name. -/
def Column.intendedAfterName (c : Column) (t : ColumnType) : List Setting :=
  (if c.isPrimaryKey then [Setting.primaryKey] else []) ++ [Setting.type t] ++
    (if c.mayBeNull then [] else [Setting.notNull]) ++ c.defaultSettings ++
    (if c.unique && !c.isPrimaryKey then [Setting.unique] else []) ++ c.sizeSettings ++
    (if t.goType.package = some "time" then c.timeSettings else [])

/-- The settings that are meant for a column whose type is `t`. -/
def Column.intended (c : Column) (t : ColumnType) : List Setting :=
  .column c.name :: c.intendedAfterName t

/-- The settings that are meant for an association. -/
def Association.intended (a : Association) : List Setting :=
  match a.kind with
  | .manyToMany => [.manyToMany a.joinTableText, .joinForeignKey a.foreignKey]
  | _ => [.foreignKey a.foreignKey]

/-- The settings that are read from the tag of a field. -/
def GoField.settings? (f : GoField) : Option (List String) :=
  (lookupTag "gorm" f.tag).map readSettings

/-- A name that ends no setting before its end and does not run into the next one. -/
def IsUnambiguous (name : String) : Prop :=
  ';' ∉ name.toList ∧ ¬EndsInBackslash name

/-! ## Plain characters -/

theorem endsInBackslash_append {label : String} (h : ¬EndsInBackslash label) (name : String) :
    EndsInBackslash (label ++ name) ↔ EndsInBackslash name := by
  unfold EndsInBackslash at h ⊢
  rw [String.toList_append, List.getLast?_append]
  cases name.toList.getLast? with
  | none => simpa using h
  | some c => simp

theorem not_endsInBackslash {s : String} (h : '\\' ∉ s.toList) : ¬EndsInBackslash s :=
  fun hlast => h (List.mem_of_getLast? hlast)

/-- The marks of the syntax of settings. -/
def IsMark (c : Char) : Prop :=
  c = ';' ∨ c = '\\'

/-- Characters without marks. -/
def IsClean (s : List Char) : Prop :=
  ∀ c ∈ s, ¬IsMark c

namespace IsClean

variable {s t : List Char} {c : Char}

theorem append (hs : IsClean s) (ht : IsClean t) : IsClean (s ++ t) :=
  List.forall_mem_append.2 ⟨hs, ht⟩

theorem cons (hc : ¬IsMark c) (hs : IsClean s) : IsClean (c :: s) :=
  List.forall_mem_cons.2 ⟨hc, hs⟩

theorem subset (hs : IsClean s) (h : t ⊆ s) : IsClean t :=
  fun c hc => hs c (h hc)

theorem replicate (hc : ¬IsMark c) (n : Nat) : IsClean (List.replicate n c) := by
  intro d hd
  rw [List.eq_of_mem_replicate hd]
  exact hc

theorem ite {p : Prop} {_ : Decidable p} (hs : IsClean s) (ht : IsClean t) :
    IsClean (if p then s else t) := by
  by_cases h : p
  · rwa [if_pos h]
  · rwa [if_neg h]

theorem not_semicolon (hs : IsClean s) : ';' ∉ s :=
  fun h => hs _ h (.inl rfl)

theorem not_backslash (hs : IsClean s) : '\\' ∉ s :=
  fun h => hs _ h (.inr rfl)

end IsClean

theorem isClean_goName (s : String) : IsClean (goName s).toList := by
  intro c hc
  have hword := goName_chars s c hc
  rintro (rfl | rfl) <;> revert hword <;> decide

theorem isClean_toDigits (n : Nat) : IsClean (Nat.toDigits 10 n) := by
  intro c hc
  have hdigit := Nat.isDigit_of_mem_toDigits (by decide) (by decide) hc
  rintro (rfl | rfl) <;> revert hdigit <;> decide

theorem isClean_toString (n : Int) : IsClean (toString n).toList := by
  intro c hc hmark
  have hchar := mem_toString_int hc
  rcases hmark with rfl | rfl <;> revert hchar <;> decide

namespace Number

theorem isClean_exponentText (e : Int) : IsClean (exponentText e) := by
  have hdigits := isClean_toDigits e.natAbs
  refine .cons (by split <;> simp [IsMark]) ?_
  exact .ite (.cons (by simp [IsMark]) hdigits) hdigits

/-- Digits with a point or an exponent hold no marks. -/
theorem isClean_layOut (d : Digits) : IsClean (layOut d) := by
  have hzero : ¬IsMark '0' := by simp [IsMark]
  have hpoint : ¬IsMark '.' := by simp [IsMark]
  have hexponent : ∀ e, IsClean ('e' :: exponentText e) := fun e =>
    .cons (by simp [IsMark]) (isClean_exponentText e)
  unfold layOut
  extract_lets all point ds
  have hds : IsClean ds := by
    unfold ds
    split
    · exact .cons hzero (by simp [IsClean])
    · refine (isClean_toDigits d.coefficient).subset fun c hc => ?_
      exact List.mem_reverse.1 ((List.dropWhile_suffix _).subset (List.mem_reverse.1 hc))
  clear_value ds
  refine .ite (.ite ?_ (.ite ?_ ?_)) ?_
  · exact .cons hzero (.cons hpoint (.append (.replicate hzero _) hds))
  · exact .append (hds.subset (List.take_subset _ _))
      (.cons hpoint (hds.subset (List.drop_subset _ _)))
  · exact .append (.append hds (.replicate hzero _)) (.cons hpoint (.cons hzero (by simp [IsClean])))
  · cases ds with
    | nil => exact hds
    | cons c rest =>
      have hc : ¬IsMark c := hds c List.mem_cons_self
      have hrest : IsClean rest := hds.subset (List.subset_cons_self c rest)
      cases rest with
      | nil => exact .cons hc (hexponent _)
      | cons c' rest => exact .cons hc (.cons hpoint (.append hrest (hexponent _)))

theorem isClean_text (x : Binary64) : IsClean x.text.toList := by
  cases x with
  | finite negative m e =>
    rw [Binary64.text, String.toList_ofList]
    exact .append (by cases negative <;> simp [IsClean, IsMark]) (isClean_layOut _)
  | infinite negative => cases negative <;> simp [Binary64.text, IsClean, IsMark]
  | nan => simp [Binary64.text, IsClean, IsMark]

end Number

/-- No default ends in a backslash: texts end in a quotation mark. -/
theorem not_endsInBackslash_defaultText (v : Value) : ¬EndsInBackslash (defaultText v) := by
  unfold defaultText
  split
  · decide
  · decide
  · exact not_endsInBackslash (isClean_toString _).not_backslash
  · exact not_endsInBackslash (Number.isClean_text _).not_backslash
  · rw [EndsInBackslash, String.toList_ofList, List.getLast?_append]
    simp

/-! ## What is written for settings -/

theorem escapeSetting_append (s t : String) :
    escapeSetting (s ++ t) = escapeSetting s ++ escapeSetting t := by
  simp [escapeSetting, String.toList_append]

namespace Setting

theorem isClean_label {label text : String} (hlabel : IsClean label.toList)
    (htext : IsClean text.toList) : IsClean (label ++ text).toList := by
  rw [String.toList_append]
  exact hlabel.append htext

/-- A setting that holds neither a name nor a default is plain. -/
theorem isClean_text {s : Setting} (hname : ¬s.IsNamed) (hdefault : ∀ v, s ≠ default v) :
    IsClean s.text.toList := by
  have hwords : ∀ w ∈ ["primaryKey", "not null", "unique", "autoCreateTime", "autoUpdateTime",
      "type:", "size:", "joinForeignKey:", "foreignKey:"], IsClean w.toList := by
    simp [IsClean, IsMark]
  simp only [List.forall_mem_cons] at hwords
  obtain ⟨hkey, hnotNull, hunique, hcreate, hupdate, htype, hsize, hjoin, hforeign, -⟩ := hwords
  cases s with
  | column | manyToMany => exact absurd trivial hname
  | default v => exact absurd rfl (hdefault v)
  | primaryKey => exact hkey
  | notNull => exact hnotNull
  | unique => exact hunique
  | createTime => exact hcreate
  | updateTime => exact hupdate
  | type t =>
    have hsql : IsClean t.goType.sqlType.toList := by
      cases t <;> simp [IsClean, IsMark, ColumnType.goType]
    exact isClean_label htype hsql
  | size n => exact isClean_label hsize (isClean_toString n)
  | joinForeignKey key => exact isClean_label hjoin (isClean_goName key)
  | foreignKey key => exact isClean_label hforeign (isClean_goName key)

/-- A setting without a name is written escaped and does not end in a backslash. -/
theorem written_eq {s : Setting} (h : ¬s.IsNamed) :
    s.written = escapeSetting s.text ∧ ¬EndsInBackslash s.text := by
  by_cases hdefault : ∃ v, s = default v
  · obtain ⟨v, rfl⟩ := hdefault
    have htext : (default v).text = "default:" ++ defaultText v := rfl
    have hlabel : escapeSetting "default:" = "default:" := by decide
    rw [htext, escapeSetting_append, hlabel, endsInBackslash_append (by decide)]
    exact ⟨rfl, not_endsInBackslash_defaultText v⟩
  · have hclean := isClean_text h (not_exists.1 hdefault)
    refine ⟨?_, not_endsInBackslash hclean.not_backslash⟩
    rw [escapeSetting_eq_self.2 hclean.not_semicolon]
    cases s
    case default v => exact absurd ⟨v, rfl⟩ hdefault
    all_goals rfl

end Setting

namespace Column

variable (c : Column)

theorem written_defaultSettings : c.defaultSettings.map Setting.written =
    ColumnType.defaultTexts c.hasDefault c.defaultValue := by
  unfold defaultSettings ColumnType.defaultTexts
  split <;> simp_all [Setting.written]

theorem written_sizeSettings : c.sizeSettings.map Setting.written =
    match c.length with
    | some n => if n = 0 then [] else ["size:" ++ toString n]
    | none => [] := by
  unfold sizeSettings
  cases c.length with
  | none => rfl
  | some n => exact apply_ite _ _ _ _

theorem written_timeSettings :
    c.timeSettings.map Setting.written = (automaticTimes.lookup c.name).toList := by
  unfold timeSettings
  simp only [automaticTimes, List.lookup_cons, List.lookup_nil, beq_eq_decide]
  by_cases h1 : c.name = "created_at"
  · simp only [h1, true_or, if_true, decide_true]
    rfl
  by_cases h2 : c.name = "created_on"
  · simp only [h2, or_true, if_true, decide_true]
    rfl
  by_cases h3 : c.name = "updated_at"
  · simp only [h3]
    rfl
  by_cases h4 : c.name = "updated_on"
  · simp only [h4]
    rfl
  simp [h1, h2, h3, h4]

theorem settings_eq {t : ColumnType} {settings : List String} (h : c.settings t = .ok settings) :
    settings = (c.intended t).map Setting.written := by
  obtain ⟨_, _, htype, hsize, rfl⟩ := settings_eq_ok.1 h
  obtain ⟨_, hdefault, rfl⟩ := ColumnType.settings_eq_ok.1 htype
  obtain ⟨-, rfl⟩ := ColumnType.defaultSettings_eq_ok.1 hdefault
  obtain ⟨-, rfl⟩ := lengthSettings_eq_ok.1 hsize
  unfold intended intendedAfterName
  simp only [List.map_cons, List.map_append, List.append_assoc, List.cons_append, List.nil_append,
    written_defaultSettings, written_sizeSettings, written_timeSettings,
    apply_ite (List.map Setting.written)]
  cases automaticTimes.lookup c.name with
  | none =>
    simp only [Option.toList_none, List.map_nil, ite_self]
    rfl
  | some auto => rfl

/-- After its name, nothing of a column is written as it is. -/
theorem not_isNamed_of_mem {t : ColumnType} {s : Setting} (h : s ∈ c.intendedAfterName t) :
    ¬s.IsNamed := by
  simp only [intendedAfterName, List.mem_append, List.mem_ite_nil_right, List.mem_ite_nil_left,
    List.mem_singleton] at h
  rcases h with (((((⟨-, rfl⟩ | rfl) | ⟨-, rfl⟩) | h) | ⟨-, rfl⟩) | h) | ⟨-, h⟩
  · exact id
  · exact id
  · exact id
  · unfold defaultSettings at h
    split at h <;> simp at h
    rw [h]
    exact id
  · exact id
  · unfold sizeSettings at h
    split at h <;> simp at h
    rw [h.2]
    exact id
  · unfold timeSettings at h
    split at h
    · rw [List.mem_singleton.1 h]
      exact id
    · rw [List.mem_ite_nil_right, List.mem_singleton] at h
      rw [h.2]
      exact id

theorem intendedAfterName_ne_nil (t : ColumnType) : c.intendedAfterName t ≠ [] :=
  List.ne_nil_of_mem (a := .type t) (by simp [intendedAfterName])

end Column

/-! ## What is read -/

theorem isUnambiguous_append {label : String} (h : IsUnambiguous label) (name : String) :
    IsUnambiguous (label ++ name) ↔ IsUnambiguous name := by
  unfold IsUnambiguous
  rw [endsInBackslash_append h.2, String.toList_append, List.mem_append, not_or, and_iff_right h.1]

theorem joinSettings_cons {rest : List String} (h : rest ≠ []) (s : String) :
    joinSettings (s :: rest) = s ++ (";" ++ joinSettings rest) := by
  obtain ⟨r, rest, rfl⟩ := List.exists_cons_of_ne_nil h
  rw [joinSettings, String.intercalate_cons_cons, String.append_assoc]
  rfl

namespace Setting

variable {s : Setting} {settings : List Setting}

theorem map_written (h : ∀ s ∈ settings, ¬s.IsNamed) :
    settings.map written = (settings.map text).map escapeSetting := by
  rw [List.map_map]
  exact List.map_congr_left fun s hs => (written_eq (h s hs)).1

theorem not_endsInBackslash_of_mem (h : ∀ s ∈ settings, ¬s.IsNamed) :
    ∀ r ∈ (settings.map text).dropLast, ¬EndsInBackslash r := by
  rw [← List.map_dropLast, List.forall_mem_map]
  exact fun s hs => (written_eq (h s (List.mem_of_mem_dropLast hs))).2

/-- Settings without names are read as they were meant. -/
theorem read_written (hne : settings ≠ []) (h : ∀ s ∈ settings, ¬s.IsNamed) :
    readSettings (joinSettings (settings.map written)) = settings.map text := by
  rw [readSettings_eq_iff, map_written h]
  exact ⟨by simpa using hne, rfl, not_endsInBackslash_of_mem h⟩

/-- A name at their front decides whether settings are read as they were meant. -/
theorem read_written_cons_iff (hs : s.IsNamed) (hne : settings ≠ [])
    (h : ∀ s ∈ settings, ¬s.IsNamed) :
    readSettings (joinSettings ((s :: settings).map written)) = (s :: settings).map text ↔
      IsUnambiguous s.text := by
  have hwritten : s.written = s.text := by
    cases s
    case default v => exact hs.elim
    all_goals rfl
  have hends := not_endsInBackslash_of_mem h
  have hmap : settings.map text ≠ [] := by simpa using hne
  have hescaped : (settings.map text).map escapeSetting ≠ [] := by simpa using hne
  -- All but the name are written escaped, so the two texts agree if it needs no escaping.
  rw [readSettings_eq_iff, List.map_cons, List.map_cons, List.map_cons, map_written h, hwritten,
    List.dropLast_cons_of_ne_nil hmap, List.forall_mem_cons, and_iff_left hends,
    joinSettings_cons hescaped, joinSettings_cons hescaped, String.append_left_inj,
    escapeSetting_eq_self]
  exact and_iff_right (by simp)

end Setting

theorem GoField.settings?_eq {f : GoField} {settings : List String} {json : String}
    (h : f.tag = structTag [("gorm", joinSettings settings), ("json", json)]) :
    f.settings? = some (readSettings (joinSettings settings)) := by
  rw [settings?, h, lookupTag_structTag isTagKey_of_mem]
  rfl

/-- The settings of a column are read as they were meant if its name is unambiguous, and only then. -/
theorem Column.settings_read_iff {c : Column} {t : ColumnType} {f : GoField} (hf : c.field t = .ok f) :
    f.settings? = some ((c.intended t).map Setting.text) ↔ IsUnambiguous c.name := by
  obtain ⟨settings, hsettings, rfl⟩ := field_eq_ok.1 hf
  have hlabel : IsUnambiguous "column:" := ⟨by decide, by decide⟩
  have hread := Setting.read_written_cons_iff (s := .column c.name) trivial
    (c.intendedAfterName_ne_nil t) fun s => c.not_isNamed_of_mem
  rw [GoField.settings?_eq (f := c.fieldWith t settings) rfl, Option.some.injEq,
    c.settings_eq hsettings, intended, hread]
  exact isUnambiguous_append hlabel c.name

theorem Association.settings_eq (a : Association) :
    a.settings = a.intended.map Setting.written := by
  unfold settings intended
  cases a.kind <;> rfl

/-- The settings of an association are read as they were meant if its join table, where it has one,
has an unambiguous name, and only then. -/
theorem Link.settings_read_iff (l : Link) :
    l.field.settings? = some (l.association.intended.map Setting.text) ↔
      (l.association.kind = .manyToMany → IsUnambiguous l.association.joinTableText) := by
  have hlabel : IsUnambiguous "many2many:" := ⟨by decide, by decide⟩
  rw [GoField.settings?_eq (f := l.field) rfl, Option.some.injEq, Association.settings_eq]
  unfold Association.intended
  split
  · next hkind =>
    rw [forall_prop_of_true hkind, ← isUnambiguous_append hlabel]
    exact Setting.read_written_cons_iff trivial (by simp) (by simp [Setting.IsNamed])
  · next hkind =>
    refine iff_of_true ?_ fun h => absurd h hkind
    exact Setting.read_written (by simp) (by simp [Setting.IsNamed])

/-- Of every field that is emitted, exactly the settings are read that were meant, if and only if the
name of its column or join table is unambiguous. -/
theorem synthesize_settings_read_iff {m : Model} {links : List Link} {s : GoStruct}
    (h : m.synthesize links = .ok s) :
    ∃ columns, s.fields = columns ++ links.map Link.field ∧
      List.Forall₂ (fun c f => ∃ t, ColumnType.ofName? c.sourceType = some t ∧
        (f.settings? = some ((c.intended t).map Setting.text) ↔ IsUnambiguous c.name))
        m.columns columns ∧
      ∀ l ∈ links, l.field.settings? = some (l.association.intended.map Setting.text) ↔
        (l.association.kind = .manyToMany → IsUnambiguous l.association.joinTableText) := by
  obtain ⟨columns, rfl, hcolumns⟩ := Model.struct_of_synthesize h
  refine ⟨columns, rfl, hcolumns.imp ?_, fun l _ => l.settings_read_iff⟩
  rintro c f ⟨t, ht, hf⟩
  exact ⟨t, ht, Column.settings_read_iff hf⟩

/-- A column whose default holds a semicolon and ends in a backslash. -/
def noteColumn (name : String) : Column where
  name
  sourceType := "string"
  hasDefault := true
  defaultValue := .text "none; unique\\"

def memos (name : String) : Model where
  name := "Memo"
  tableName := "memos"
  columns := [{ name := "id", sourceType := "integer", isPrimaryKey := true }, noteColumn name]

/-- A tag of memos. -/
def memoTag (joinTable : String) : Link where
  association := {
    name := "tags", kind := .manyToMany, target := "Tag", foreignKey := "memo_id",
    joinTable := some joinTable }
  targetStruct := "Tag"
  cardinality := .many

theorem note_settings_read : ∃ s, (memos "note").synthesize [memoTag "memos_tags"] = .ok s ∧
    ∃ columns, s.fields = columns ++ [memoTag "memos_tags"].map Link.field ∧
      List.Forall₂ (fun c f => ∃ t, ColumnType.ofName? c.sourceType = some t ∧
        (f.settings? = some ((c.intended t).map Setting.text) ↔ IsUnambiguous c.name))
        (memos "note").columns columns ∧
      ∀ l ∈ [memoTag "memos_tags"],
        l.field.settings? = some (l.association.intended.map Setting.text) ↔
          (l.association.kind = .manyToMany → IsUnambiguous l.association.joinTableText) := by
  obtain ⟨s, hs⟩ : ∃ s, (memos "note").synthesize [memoTag "memos_tags"] = .ok s :=
    Model.exists_struct (by decide +kernel)
  exact ⟨s, hs, synthesize_settings_read_iff hs⟩

/-- The name of a column ends early and adds a setting. -/
theorem note_unique_misread : ∃ s, (memos "note;unique").synthesize [] = .ok s ∧
    ∃ f ∈ s.fields, (noteColumn "note;unique").field .string = .ok f ∧
      f.settings? = some
        ["column:note", "unique", "type:varchar(255)", "not null", "default:'none; unique\\'"] ∧
      ((noteColumn "note;unique").intended .string).map Setting.text =
        ["column:note;unique", "type:varchar(255)", "not null", "default:'none; unique\\'"] := by
  obtain ⟨s, hs⟩ : ∃ s, (memos "note;unique").synthesize [] = .ok s :=
    Model.exists_struct (by decide +kernel)
  obtain ⟨columns, rfl, hcolumns⟩ := Model.struct_of_synthesize hs
  cases hcolumns with
  | cons _ hrest =>
    cases hrest with
    | cons hf hnil =>
      obtain ⟨t, ht, hf⟩ := hf
      have hstring : ColumnType.ofName? "string" = some .string := by decide +kernel
      obtain rfl : ColumnType.string = t := Option.some.inj (hstring.symm.trans ht)
      refine ⟨_, hs, _, by simp [Model.struct], hf, ?_, by decide +kernel⟩
      obtain ⟨settings, hsettings, rfl⟩ := Column.field_eq_ok.1 hf
      rw [GoField.settings?_eq (f := (noteColumn "note;unique").fieldWith .string settings) rfl,
        Column.settings_eq _ hsettings]
      decide +kernel

end StructGen
