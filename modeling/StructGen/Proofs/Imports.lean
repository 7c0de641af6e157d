import StructGen.Proofs.ExportedNames
import StructGen.Proofs.FileOutline
/-!
# Imports

A struct imports the packages that the types of its fields name and no others, each once
(`imports_exact`). A type of a column names a package if it tells a time, and the struct of a link is
named without a package, whatever it is called.
-/
namespace StructGen

/-! ## Packages of a type -/

/-- The packages that a type names: the name in front of each of its points. -/
def qualifiers (type : String) : List String :=
  (type.toList.splitOn '.').dropLast.map fun part =>
    String.ofList (part.reverse.takeWhile isNameChar).reverse

example : qualifiers "map[string]*sql.NullTime" = ["sql"] ∧ qualifiers "[]LineItem" = [] := by
  decide +kernel

theorem ColumnType.package_eq (t : ColumnType) :
    t.goType.package = if t.goType.name = "time.Time" then some "time" else none := by
  cases t <;> rfl

theorem requiredPackage?_eq (type : String) :
    requiredPackage? type = if bareType type = "time.Time" then some "time" else none := by
  have hrequired : requiredPackage? type = ColumnType.all.findSome? fun t =>
      if t.goType.name = bareType type then t.goType.package else none := rfl
  rw [hrequired]
  split
  · next htime =>
    rw [htime]
    decide
  · next htime =>
    rw [List.findSome?_eq_none_iff]
    intro t _
    split
    · next hname => rw [t.package_eq, hname, if_neg htime]
    · rfl

/-- A type that tells a time is that of a time or of a pointer to one. -/
def IsTime (type : String) : Prop :=
  type = "time.Time" ∨ type = "*time.Time"

instance (type : String) : Decidable (IsTime type) :=
  inferInstanceAs (Decidable (_ ∨ _))

/-- The type of a field is plain: it names a package exactly if it tells a time, and that is the
package it requires. -/
structure IsPlainType (type : String) : Prop where
  qualifiers : StructGen.qualifiers type = if IsTime type then ["time"] else []
  required : requiredPackage? type = if IsTime type then some "time" else none

theorem isPlainType_column (t : ColumnType) (nullable : Bool) :
    IsPlainType (t.fieldType nullable) := by
  cases t <;> cases nullable <;> constructor <;> decide +kernel

/-- The type of a link's field has no point. -/
theorem not_point_link {l : Link} {target : String} (h : l.targetStruct = goName target) :
    '.' ∉ l.fieldType.toList := by
  obtain ⟨marks, hmarks, htype⟩ := l.fieldType_eq
  have hword : '.' ∉ (goName target).toList := by
    intro hmem
    have hpoint := goName_chars target _ hmem
    revert hpoint
    decide
  rw [htype, h, String.toList_append, List.mem_append, not_or]
  refine ⟨?_, hword⟩
  fin_cases hmarks <;> decide

theorem not_isTime_link {l : Link} {target : String} (h : l.targetStruct = goName target) :
    ¬IsTime l.fieldType := by
  have hpoint := not_point_link h
  rintro (hname | hname) <;> rw [hname] at hpoint <;> revert hpoint <;> decide

theorem isPlainType_link {l : Link} {target : String} (h : l.targetStruct = goName target) :
    IsPlainType l.fieldType := by
  have hpoint := not_point_link h
  have htime := not_isTime_link h
  constructor
  · have hparts : l.fieldType.toList.splitOn '.' = [l.fieldType.toList] := by
      have hone := List.splitOn_intercalate '.' (List.forall_mem_singleton.2 hpoint)
        (List.cons_ne_nil _ _)
      rwa [List.intercalate_singleton] at hone
    rw [qualifiers, hparts, if_neg htime]
    rfl
  · have hbare : bareType l.fieldType ≠ "time.Time" := by
      intro hbare
      have hmem : '.' ∈ (bareType l.fieldType).toList := by
        rw [hbare]
        decide
      rw [bareType, String.toList_ofList] at hmem
      exact hpoint ((List.dropWhile_sublist isTypeMark).subset hmem)
    rw [requiredPackage?_eq, if_neg hbare, if_neg htime]

/-! ## Imports of a struct -/

theorem eraseDups_of_forall {l : List String} {a : String} (h : ∀ b ∈ l, b = a) :
    l.eraseDups = if l = [] then [] else [a] := by
  cases l with
  | nil => simp
  | cons b rest =>
    rw [List.forall_mem_cons] at h
    obtain ⟨rfl, hrest⟩ := h
    have hnone : rest.filter (fun c => !c == b) = [] := by
      rw [List.filter_eq_nil_iff]
      intro c hc
      simp [hrest c hc]
    rw [List.eraseDups_cons, hnone]
    simp

/-- Fields of plain types import the package of times, once, if one of them tells a time. -/
theorem importsOf_eq {fields : List GoField} (h : ∀ f ∈ fields, IsPlainType f.type) :
    Model.importsOf fields = if ∃ f ∈ fields, IsTime f.type then ["time"] else [] := by
  have hmem : ∀ path, path ∈ fields.filterMap (fun f => requiredPackage? f.type) ↔
      path = "time" ∧ ∃ f ∈ fields, IsTime f.type := by
    intro path
    rw [List.mem_filterMap]
    constructor
    · rintro ⟨f, hf, hpath⟩
      rw [(h f hf).required] at hpath
      split at hpath
      · next htime => exact ⟨(Option.some.inj hpath).symm, f, hf, htime⟩
      · cases hpath
    · rintro ⟨rfl, f, hf, htime⟩
      exact ⟨f, hf, by rw [(h f hf).required, if_pos htime]⟩
  have hnil : fields.filterMap (fun f => requiredPackage? f.type) = [] ↔
      ¬∃ f ∈ fields, IsTime f.type := by
    rw [List.eq_nil_iff_forall_not_mem]
    simp only [hmem, not_and, forall_eq]
  unfold Model.importsOf
  rw [eraseDups_of_forall fun path hpath => ((hmem path).1 hpath).1]
  simp only [hnil, ite_not]
  split <;> simp [Text.sorted]

variable {m : Model} {links : List Link} {s : GoStruct}

theorem isPlainType_of_synthesize (h : m.synthesize links = .ok s)
    (hlinks : ∀ l ∈ links, ∃ target, l.targetStruct = goName target) :
    ∀ f ∈ s.fields, IsPlainType f.type := by
  intro f hf
  rcases (Model.mem_fields_iff h).1 hf with ⟨c, -, t, -, hfield⟩ | ⟨l, hl, rfl⟩
  · obtain ⟨settings, -, rfl⟩ := Column.field_eq_ok.1 hfield
    exact isPlainType_column t c.mayBeNull
  · obtain ⟨target, htarget⟩ := hlinks l hl
    exact isPlainType_link htarget

/-- The names of the column types that tell a time. -/
def timeTypes : List String :=
  ["date", "datetime", "timestamp"]

theorem isTime_fieldType {source : String} {t : ColumnType} (h : ColumnType.ofName? source = some t)
    (nullable : Bool) :
    IsTime (t.fieldType nullable) ↔ Text.lower (Text.trim source) ∈ timeTypes := by
  have hname : t.name = Text.lower (Text.trim source) := by
    have hfound := List.find?_some h
    simpa using hfound
  rw [← hname]
  cases t <;> cases nullable <;> decide

/-- A field of a struct tells a time if and only if a column of the model does. -/
theorem exists_isTime_iff (h : m.synthesize links = .ok s)
    (hlinks : ∀ l ∈ links, ∃ target, l.targetStruct = goName target) :
    (∃ f ∈ s.fields, IsTime f.type) ↔
      ∃ c ∈ m.columns, Text.lower (Text.trim c.sourceType) ∈ timeTypes := by
  constructor
  · rintro ⟨f, hf, htime⟩
    rcases (Model.mem_fields_iff h).1 hf with ⟨c, hc, t, ht, hfield⟩ | ⟨l, hl, rfl⟩
    · obtain ⟨settings, -, rfl⟩ := Column.field_eq_ok.1 hfield
      exact ⟨c, hc, (isTime_fieldType ht c.mayBeNull).1 htime⟩
    · obtain ⟨target, htarget⟩ := hlinks l hl
      exact absurd htime (not_isTime_link htarget)
  · rintro ⟨c, hc, htime⟩
    obtain ⟨t, f, ht, hfield⟩ := Model.exists_type h hc
    refine ⟨f, (Model.mem_fields_iff h).2 (.inl ⟨c, hc, t, ht, hfield⟩), ?_⟩
    obtain ⟨settings, -, rfl⟩ := Column.field_eq_ok.1 hfield
    exact (isTime_fieldType ht c.mayBeNull).2 htime

/-! ## Import blocks -/

/-- The import blocks of a file, each with the paths that its lines import, if they do. -/
def importBlocks : List String → List (Option (List String))
  | [] => []
  | line :: rest =>
    if line = "import (" then (rest.takeWhile (· != ")")).mapM Outline.readImport :: importBlocks rest
    else importBlocks rest

theorem importBlocks_append {before : List String} (h : "import (" ∉ before) (rest : List String) :
    importBlocks (before ++ rest) = importBlocks rest := by
  induction before with
  | nil => rfl
  | cons line before ih =>
    rw [List.mem_cons, not_or] at h
    rw [List.cons_append, importBlocks, if_neg (Ne.symm h.1), ih h.2]

theorem importBlocks_eq_nil {lines : List String} (h : "import (" ∉ lines) :
    importBlocks lines = [] := by
  have happend := importBlocks_append h []
  rwa [List.append_nil] at happend

theorem mapM_readImport (paths : List String) :
    (paths.map importLine).mapM Outline.readImport = some paths := by
  induction paths with
  | nil => rfl
  | cons path paths ih => simp [List.mapM_cons, Outline.readImport_importLine, ih]

theorem importBlocks_block {paths rest : List String} (h : "import (" ∉ rest) :
    importBlocks ("import (" :: (paths.map importLine ++ ")" :: rest)) = [some paths] := by
  have hline : ∀ line ∈ paths.map importLine, (line != ")") = true ∧ line ≠ "import (" := by
    rw [List.forall_mem_map]
    intro path _
    constructor
    · rw [bne_iff_ne]
      intro h
      simpa [importLine, String.toList_append] using congrArg String.toList h
    · intro h
      simpa [importLine, String.toList_append] using congrArg String.toList h
  have hnone : "import (" ∉ paths.map importLine ++ ")" :: rest := by
    rw [List.mem_append, List.mem_cons, not_or, not_or]
    exact ⟨fun hmem => (hline _ hmem).2 rfl, by decide, h⟩
  rw [importBlocks, if_pos rfl, importBlocks_eq_nil hnone,
    Text.takeWhile_stop (fun line hl => (hline line hl).1) (by decide), mapM_readImport]

/-- The lines of a file that count have one import block, with the imports of the struct, or none. -/
theorem importBlocks_codeLines (s : GoStruct) (package : String) :
    importBlocks (s.codeLines package) = if s.imports = [] then [] else [some s.imports] := by
  have hstart : ∀ rest, "package " ++ rest ≠ "import (" ∧ "type " ++ rest ≠ "import (" ∧
      "func (" ++ rest ≠ "import (" ∧ "\t" ++ rest ≠ "import (" := by
    intro rest
    refine ⟨?_, ?_, ?_, ?_⟩ <;> intro h <;>
      simpa [String.toList_append] using congrArg String.toList h
  have hfields : "import (" ∉ s.fields.map GoField.plannedLine := by
    rw [List.mem_map]
    rintro ⟨f, -, hf⟩
    rw [Outline.plannedLine_eq] at hf
    exact (hstart _).2.2.2 hf
  have hrest : "import (" ∉ ("type " ++ s.name ++ " struct \x7b") ::
      (s.fields.map GoField.plannedLine ++
        ["\x7d", "func (" ++ s.name ++ ") TableName() string \x7b",
          "\treturn " ++ Text.quote s.tableName, "\x7d"]) := by
    simp only [List.mem_cons, List.mem_append, hfields, List.not_mem_nil, or_false, false_or,
      String.append_assoc]
    rintro (h | h | h | h | h)
    · exact (hstart _).2.1 h.symm
    · revert h
      decide
    · exact (hstart _).2.2.1 h.symm
    · exact (hstart ("return " ++ Text.quote s.tableName)).2.2.2 (h.trans (by rfl)).symm
    · revert h
      decide
  have hclause : "import (" ∉ ["package " ++ package] :=
    fun h => (hstart package).1 (List.mem_singleton.1 h).symm
  rw [GoStruct.codeLines, ← List.singleton_append, importBlocks_append hclause]
  split
  · exact importBlocks_eq_nil hrest
  · rw [List.cons_append, List.append_assoc]
    exact importBlocks_block hrest

/-- The file of a struct has one import block, with the imports of the struct, or none. -/
theorem importBlocks_render (hname : IsOneLine s.name) (hfields : ∀ f ∈ s.fields, f.FitsLine)
    (p : Package) :
    importBlocks ((linesOf (s.render p)).filter Outline.isCode) =
      if s.imports = [] then [] else [some s.imports] := by
  obtain ⟨name, hid, hp⟩ := p.name_cases
  rw [GoStruct.render, GoStruct.lines_eq_plan hfields, GoStruct.filter_linesOf hname hid hp hfields,
    importBlocks_codeLines]

/-- The struct of a model imports the package of times if and only if a field of it tells a time,
which is to say that a column has one of the types of a time, and no other package. So its imports
are the packages that the types of its fields name, whatever the model and its links are called, and
its file has one import block with them, or none if there are none. -/
theorem imports_exact (h : m.synthesize links = .ok s)
    (hlinks : ∀ l ∈ links, ∃ target, l.targetStruct = goName target) :
    s.imports = (if ∃ f ∈ s.fields, IsTime f.type then ["time"] else []) ∧
      ((∃ f ∈ s.fields, IsTime f.type) ↔
        ∃ c ∈ m.columns, Text.lower (Text.trim c.sourceType) ∈ timeTypes) ∧
      s.imports.Nodup ∧
      (∀ path, path ∈ s.imports ↔ ∃ f ∈ s.fields, path ∈ qualifiers f.type) ∧
      ∀ p : Package,
        importBlocks ((linesOf (s.render p)).filter Outline.isCode) =
            (if s.imports = [] then [] else [some s.imports]) ∧
          ∃ o, readFile (linesOf (s.render p)) = some o ∧
            ∀ path, path ∈ o.imports ↔ ∃ f ∈ o.fields, path ∈ qualifiers f.2.1 := by
  have hplain := isPlainType_of_synthesize h hlinks
  have hfits := fitsLine_of_synthesize h hlinks
  have himports : s.imports = if ∃ f ∈ s.fields, IsTime f.type then ["time"] else [] := by
    obtain ⟨columns, rfl, -⟩ := Model.struct_of_synthesize h
    exact importsOf_eq hplain
  have hname : IsOneLine s.name := by
    obtain ⟨columns, rfl, -⟩ := Model.struct_of_synthesize h
    exact isOneLine_of_isWordChar (goName_chars m.name)
  have hused : ∀ path, path ∈ s.imports ↔ ∃ f ∈ s.fields, path ∈ qualifiers f.type := by
    intro path
    have htime : (∃ f ∈ s.fields, path ∈ qualifiers f.type) ↔
        path = "time" ∧ ∃ f ∈ s.fields, IsTime f.type := by
      constructor
      · rintro ⟨f, hf, hpath⟩
        rw [(hplain f hf).qualifiers] at hpath
        split at hpath
        · next htime => exact ⟨List.mem_singleton.1 hpath, f, hf, htime⟩
        · cases hpath
      · rintro ⟨rfl, f, hf, htime⟩
        exact ⟨f, hf, by rw [(hplain f hf).qualifiers, if_pos htime]; exact List.mem_singleton_self _⟩
    rw [htime, himports]
    split
    · next hsome => simp [hsome]
    · next hnone => simp [hnone]
  have hnodup : s.imports.Nodup := by
    rw [himports]
    split <;> simp
  refine ⟨himports, exists_isTime_iff h hlinks, hnodup, hused, fun p => ⟨?_, ?_⟩⟩
  · exact importBlocks_render hname hfits p
  · obtain ⟨package, hread⟩ := GoStruct.readFile_render hname hfits p
    refine ⟨_, hread, fun path => ?_⟩
    rw [GoStruct.outline, hused]
    simp

/-- Visits, each with the time at which it ended. -/
def visits : Model where
  name := "Visit"
  tableName := "visits"
  columns := [
    { name := "id", sourceType := "integer", isPrimaryKey := true },
    { name := "left_at", sourceType := " Timestamp", nullable := true }]

/-- The link of a visit to its slot, whose model is called like a type of another package. -/
def timeSlot : Link where
  association := {
    name := "slot", kind := .belongsTo, target := "time.Time", foreignKey := "slot_id" }
  targetStruct := goName "time.Time"
  cardinality := .single

theorem visits_import_time : ∃ s, visits.synthesize [timeSlot] = .ok s ∧
    (∀ l ∈ [timeSlot], ∃ target, l.targetStruct = goName target) ∧
    s.fields.map (·.type) = ["int", "*time.Time", "TimeTime"] ∧ s.imports = ["time"] ∧
    ∀ p : Package, importBlocks ((linesOf (s.render p)).filter Outline.isCode) = [some ["time"]] := by
  obtain ⟨s, hs⟩ : ∃ s, visits.synthesize [timeSlot] = .ok s :=
    Model.exists_struct (by decide +kernel)
  have hlinks : ∀ l ∈ [timeSlot], ∃ target, l.targetStruct = goName target :=
    List.forall_mem_singleton.2 ⟨"time.Time", rfl⟩
  have htypes : (visits.synthesize [timeSlot]).toOption.map (fun s => s.fields.map (·.type)) =
      some ["int", "*time.Time", "TimeTime"] := by decide +kernel
  rw [hs] at htypes
  obtain ⟨himports, htime, -, -, hfile⟩ := imports_exact hs hlinks
  have hpath : s.imports = ["time"] := by
    rw [himports, if_pos (htime.2 (by decide +kernel))]
  exact ⟨s, hs, hlinks, Option.some.inj htypes, hpath, fun p => by simpa [hpath] using (hfile p).1⟩

end StructGen
