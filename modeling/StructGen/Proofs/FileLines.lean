import StructGen.Proofs.Identifiers
import StructGen.Proofs.StructTags
import StructGen.Proofs.Synthesis
/-!
# The lines of a file

`linesOf_render`: the lines of the file of a struct are the ones that are planned, with one comment
line and one field line for each field. No text of a schema adds, removes or breaks a line: comments
are put on one line, literals escape line breaks, and all else is made of letters and digits.
-/
namespace StructGen

/-- The lines of a text. -/
def linesOf (text : String) : List String :=
  (text.toList.splitOn '\n').map String.ofList

/-- The text is no more than one line. -/
def IsOneLine (s : String) : Prop :=
  '\n' ∉ s.toList

instance (s : String) : Decidable (IsOneLine s) :=
  inferInstanceAs (Decidable (_ ∉ _))

theorem isOneLine_append {s t : String} : IsOneLine (s ++ t) ↔ IsOneLine s ∧ IsOneLine t := by
  unfold IsOneLine
  rw [String.toList_append, List.mem_append, not_or]

theorem linesOf_append_break (s t : String) :
    linesOf (s ++ "\n" ++ t) = linesOf s ++ linesOf t := by
  have hsplit : (s ++ "\n" ++ t).toList = s.toList ++ '\n' :: t.toList := by
    simp [String.toList_append]
  rw [linesOf, hsplit, List.splitOn_append_cons_self, List.map_append]
  rfl

theorem linesOf_of_isOneLine {l : String} (h : IsOneLine l) : linesOf l = [l] := by
  have hline : ∀ line ∈ [l.toList], '\n' ∉ line := List.forall_mem_singleton.2 h
  have hsplit := List.splitOn_intercalate '\n' hline (List.cons_ne_nil _ _)
  rw [List.intercalate_singleton] at hsplit
  rw [linesOf, hsplit]
  simp

theorem fileText_cons (l : String) {rest : List String} (h : rest ≠ []) :
    fileText (l :: rest) = l ++ "\n" ++ fileText rest := by
  obtain ⟨l', rest, rfl⟩ := List.exists_cons_of_ne_nil h
  rw [fileText, String.intercalate_cons_cons, String.append_assoc, ← fileText]

/-- The lines of a file are those of its planned lines, in order. -/
theorem linesOf_fileText_flatMap {lines : List String} (hne : lines ≠ []) :
    linesOf (fileText lines) = lines.flatMap linesOf ++ [""] := by
  induction lines with
  | nil => exact absurd rfl hne
  | cons l rest ih =>
    cases rest with
    | nil =>
      have hbreak : linesOf (l ++ "\n" ++ "") = linesOf l ++ [""] := linesOf_append_break l ""
      simpa [fileText] using hbreak
    | cons l' rest =>
      rw [fileText_cons l (List.cons_ne_nil _ _), linesOf_append_break, ih (List.cons_ne_nil _ _),
        List.flatMap_cons (x := l), List.append_assoc]

theorem flatMap_linesOf {lines : List String} (h : ∀ l ∈ lines, IsOneLine l) :
    lines.flatMap linesOf = lines := by
  rw [List.flatMap_congr fun l hl => linesOf_of_isOneLine (h l hl), List.flatMap_singleton']

/-- A file of such lines has them as its lines, and nothing after its last line break. -/
theorem linesOf_fileText {lines : List String} (h : ∀ l ∈ lines, IsOneLine l) (hne : lines ≠ []) :
    linesOf (fileText lines) = lines ++ [""] := by
  rw [linesOf_fileText_flatMap hne, flatMap_linesOf h]

/-! ## Fields -/

/-- A field that fits on one line and can be read from it. -/
structure GoField.FitsLine (f : GoField) : Prop where
  name : ∀ c ∈ f.name.toList, Naming.isWordChar c = true
  type : ∀ c ∈ f.type.toList, c ≠ ' ' ∧ c ≠ '\n'
  tag : f.tag ≠ "" ∧ ∀ c ∈ f.tag.toList, 0x20 ≤ c.toNat
  comment : f.comment ≠ ""

theorem ne_of_isWordChar {c : Char} (h : Naming.isWordChar c = true) : c ≠ ' ' ∧ c ≠ '\n' := by
  constructor <;> rintro rfl <;> revert h <;> decide

/-- The tags of fields are not empty and hold no control character. -/
theorem fieldTag_chars (settings json : String) :
    structTag [("gorm", settings), ("json", json)] ≠ "" ∧
      ∀ c ∈ (structTag [("gorm", settings), ("json", json)]).toList, 0x20 ≤ c.toNat := by
  refine ⟨?_, fun c hc => le_of_mem_structTag isTagKey_of_mem hc⟩
  intro hempty
  have hlist := congrArg String.toList hempty
  rw [structTag_cons] at hlist
  simp [Tag.entry] at hlist

theorem Column.fieldWith_fitsLine (c : Column) (t : ColumnType) (settings : List String) :
    (c.fieldWith t settings).FitsLine where
  name := goName_chars c.name
  type := by
    have htypes : ∀ (t : ColumnType) (b : Bool), ∀ c ∈ (t.fieldType b).toList,
        c ≠ ' ' ∧ c ≠ '\n' := by
      intro t b
      cases t <;> cases b <;> simp [ColumnType.fieldType, ColumnType.goType, GoType.optional]
    exact htypes t c.mayBeNull
  tag := fieldTag_chars _ _
  comment := by simp [fieldWith]

theorem Link.field_fitsLine {l : Link} {target : String} (h : l.targetStruct = goName target) :
    l.field.FitsLine where
  name := goName_chars l.association.name
  type := by
    have hname : ∀ c ∈ l.targetStruct.toList, c ≠ ' ' ∧ c ≠ '\n' := by
      rw [h]
      exact fun c hc => ne_of_isWordChar (goName_chars target c hc)
    unfold field fieldType
    split
    · simpa using hname
    · split
      · simpa using hname
      · exact hname
  tag := fieldTag_chars _ _
  comment := by simp [field]

/-- The fields of a struct fit if its links lead to structs by their names. -/
theorem fitsLine_of_synthesize {m : Model} {links : List Link} {s : GoStruct}
    (h : m.synthesize links = .ok s)
    (hlinks : ∀ l ∈ links, ∃ target, l.targetStruct = goName target) :
    ∀ f ∈ s.fields, f.FitsLine := by
  intro f hf
  rcases (Model.mem_fields_iff h).1 hf with ⟨c, -, t, -, hfield⟩ | ⟨l, hl, rfl⟩
  · obtain ⟨settings, -, rfl⟩ := Column.field_eq_ok.1 hfield
    exact c.fieldWith_fitsLine t settings
  · obtain ⟨target, htarget⟩ := hlinks l hl
    exact Link.field_fitsLine htarget

/-! ## Files -/

/-- A letter or underscore, and letters, digits and underscores after it. -/
def IsIdentifier (name : String) : Prop :=
  ∃ c rest, name.toList = c :: rest ∧ isNameStart c = true ∧ ∀ d ∈ rest, isNameChar d = true

/-- The line that is planned for a field. -/
def GoField.plannedLine (f : GoField) : String :=
  "\t" ++ f.name ++ " " ++ f.type ++ " " ++ tagLiteral f.tag

/-- The lines that are planned for the file of a struct. -/
def GoStruct.plan (s : GoStruct) (package : String) : List String :=
  [fileHeader, "", "package " ++ package, ""] ++
    (if s.imports = [] then [] else ["import ("] ++ s.imports.map importLine ++ [")", ""]) ++
    [commentLine (s.name ++ " maps rows of the \"" ++ s.tableName ++ "\" table."),
      "type " ++ s.name ++ " struct \x7b"] ++
    s.fields.flatMap (fun f => ["\t" ++ commentLine f.comment, f.plannedLine]) ++
    ["\x7d", "", commentLine ("TableName returns the table " ++ s.name ++ " is stored in."),
      "func (" ++ s.name ++ ") TableName() string \x7b", "\treturn " ++ Text.quote s.tableName, "\x7d"]

theorem GoStruct.lines_eq_plan {s : GoStruct} (h : ∀ f ∈ s.fields, f.FitsLine) (p : Package) :
    s.lines p = s.plan p.name := by
  have himports : importBlock s.imports =
      if s.imports = [] then [] else ["import ("] ++ s.imports.map importLine ++ [")", ""] := by
    cases s.imports <;> rfl
  have hfields : s.fields.flatMap GoField.lines =
      s.fields.flatMap fun f => ["\t" ++ commentLine f.comment, f.plannedLine] := by
    refine List.flatMap_congr fun f hf => ?_
    simp [GoField.lines, GoField.line, GoField.plannedLine, (h f hf).comment, (h f hf).tag.1,
      String.append_assoc]
  rw [lines, openingLines, himports, hfields]
  rfl

/-! ## No line breaks -/

theorem isOneLine_of_isWordChar {s : String} (h : ∀ c ∈ s.toList, Naming.isWordChar c = true) :
    IsOneLine s :=
  fun hmem => (ne_of_isWordChar (h _ hmem)).2 rfl

theorem isOneLine_quote (s : String) : IsOneLine (Text.quote s) :=
  Text.not_mem_of_le (fun c hc => Text.le_of_mem_quote hc) (by decide)

theorem mem_of_mem_intercalate {sep : List Char} {ls : List (List Char)} {c : Char}
    (h : c ∈ sep.intercalate ls) : c ∈ sep ∨ ∃ l ∈ ls, c ∈ l := by
  induction ls with
  | nil => simp at h
  | cons l rest ih =>
    cases rest with
    | nil => exact .inr ⟨l, List.mem_cons_self, by simpa using h⟩
    | cons l' rest =>
      rw [List.intercalate_cons_cons, List.mem_append, List.mem_append] at h
      rcases h with (h | h) | h
      · exact .inr ⟨l, List.mem_cons_self, h⟩
      · exact .inl h
      · exact (ih h).imp_right fun ⟨w, hw, hc⟩ => ⟨w, List.mem_cons_of_mem _ hw, hc⟩

/-- Comments are put on one line: line breaks are blank. -/
theorem isOneLine_commentLine (s : String) : IsOneLine (commentLine s) := by
  refine isOneLine_append.2 ⟨by decide, ?_⟩
  unfold IsOneLine Text.oneLine
  rw [String.toList_ofList]
  intro h
  rcases mem_of_mem_intercalate h with h | ⟨run, hrun, h⟩
  · simp at h
  · have hblank := Text.not_sep_of_mem_runs hrun _ h
    revert hblank
    decide

theorem isOneLine_tagLiteral {tag : String} (h : ∀ c ∈ tag.toList, 0x20 ≤ c.toNat) :
    IsOneLine (tagLiteral tag) := by
  have htag : IsOneLine tag := Text.not_mem_of_le h (by decide)
  have hmark : IsOneLine "\x60" := by decide
  unfold tagLiteral
  split
  · exact isOneLine_quote tag
  · exact isOneLine_append.2 ⟨isOneLine_append.2 ⟨hmark, htag⟩, hmark⟩

theorem IsIdentifier.isOneLine {name : String} (h : IsIdentifier name) : IsOneLine name := by
  obtain ⟨c, rest, hname, hc, hrest⟩ := h
  unfold IsOneLine
  rw [hname, List.mem_cons, not_or]
  constructor
  · rintro rfl
    revert hc
    decide
  · intro hmem
    have := hrest _ hmem
    revert this
    decide

theorem GoField.FitsLine.isOneLine {f : GoField} (h : f.FitsLine) : IsOneLine f.plannedLine := by
  have hname := isOneLine_of_isWordChar h.name
  have htype : IsOneLine f.type := fun hmem => (h.type _ hmem).2 rfl
  have htag := isOneLine_tagLiteral h.tag.2
  simp +decide [plannedLine, isOneLine_append, hname, htype, htag]

theorem GoStruct.isOneLine_of_mem_plan {s : GoStruct} {package : String}
    (hname : IsOneLine s.name) (hpackage : IsOneLine package)
    (hfields : ∀ f ∈ s.fields, f.FitsLine) : ∀ l ∈ s.plan package, IsOneLine l := by
  have hopening : ∀ l ∈ [fileHeader, "", "package " ++ package, ""], IsOneLine l := by
    simp +decide [isOneLine_append, hpackage]
  have himports : ∀ l ∈ if s.imports = [] then []
      else ["import ("] ++ s.imports.map importLine ++ [")", ""], IsOneLine l := by
    split
    · simp
    · simp +decide [importLine, isOneLine_append, isOneLine_quote, or_imp, forall_and]
  have hfields : ∀ l ∈ s.fields.flatMap fun f => ["\t" ++ commentLine f.comment, f.plannedLine],
      IsOneLine l := by
    rw [List.forall_mem_flatMap]
    intro f hf
    simp +decide [isOneLine_append, isOneLine_commentLine, (hfields f hf).isOneLine]
  simp only [plan, List.forall_mem_append]
  refine ⟨⟨⟨⟨hopening, himports⟩, ?_⟩, hfields⟩, ?_⟩
  · simp +decide [isOneLine_append, isOneLine_commentLine, hname]
  · simp +decide [isOneLine_append, isOneLine_commentLine, isOneLine_quote, hname]

theorem GoStruct.linesOf_render {s : GoStruct} {p : Package} (hname : IsOneLine s.name)
    (hpackage : IsOneLine p.name) (hfields : ∀ f ∈ s.fields, f.FitsLine) :
    linesOf (s.render p) = s.plan p.name ++ [""] := by
  rw [render, lines_eq_plan hfields]
  exact linesOf_fileText (isOneLine_of_mem_plan hname hpackage hfields) (by simp [plan])

end StructGen
