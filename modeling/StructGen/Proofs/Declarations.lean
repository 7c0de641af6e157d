import StructGen.Proofs.FileOutline
import StructGen.Source.Connection
/-!
# What a file declares

`declaredNames` reads from the text of a file the names that it declares for its whole package: a
type or a variable on a line of its own. A struct's file declares the struct, whatever texts the
schema holds (`declaredNames_render`), and the connection file the handle of the database
(`declaredNames_connection`).
-/
namespace StructGen

open Naming

/-! ## Reading declarations -/

/-- The name that a line declares for the whole package: that of a type or of a variable. -/
def declaredName? (line : String) : Option String :=
  ((Outline.after? "type " line).or (Outline.after? "var " line)).bind fun rest =>
    (Outline.readWord rest.toList).map Prod.fst

/-- The names that a file declares for the whole package. -/
def declaredNames (text : String) : List String :=
  (linesOf text).filterMap declaredName?

/-- A file declares what its planned lines declare. -/
theorem declaredNames_fileText (lines : List String) :
    declaredNames (fileText lines) = lines.flatMap declaredNames := by
  have hend : [""].filterMap declaredName? = [] := by decide
  cases lines with
  | nil => decide
  | cons l rest =>
    rw [declaredNames, linesOf_fileText_flatMap (List.cons_ne_nil _ _), List.filterMap_append, hend,
      List.append_nil, List.filterMap_flatMap]
    rfl

/-- A line that begins neither a type nor a variable declares nothing. -/
theorem declaredNames_of_start {start rest : String} {c : Char} (hc : start.toList.head? = some c)
    (hne : c ≠ 't' ∧ c ≠ 'v') (h : IsOneLine (start ++ rest)) :
    declaredNames (start ++ rest) = [] := by
  have hnone : declaredName? (start ++ rest) = none := by
    obtain ⟨tail, htail⟩ := List.head?_eq_some_iff.1 hc
    unfold declaredName? Outline.after?
    rw [String.toList_append, htail]
    simp [List.isPrefixOf?, hne.1.symm, hne.2.symm]
  simp [declaredNames, linesOf_of_isOneLine h, hnone]

theorem declaredNames_type {name : String} (h : ∀ c ∈ name.toList, isWordChar c = true) :
    declaredNames ("type " ++ name ++ " struct \x7b") = [name] := by
  have hline : IsOneLine ("type " ++ name ++ " struct \x7b") := by
    simp +decide [isOneLine_append, isOneLine_of_isWordChar h]
  have hword : (name ++ " struct \x7b").toList = name.toList ++ ' ' :: "struct \x7b".toList := by
    simp [String.toList_append]
  rw [declaredNames, linesOf_of_isOneLine hline, String.append_assoc]
  simp only [declaredName?, Outline.after?_append, Option.some_or, Option.bind_some, hword,
    Outline.readWord_append (fun c hc => (ne_of_isWordChar (h c hc)).1), List.filterMap_cons,
    Option.map_some, List.filterMap_nil]

/-! ## Files -/

theorem declaredNames_package (p : Package) : declaredNames ("package " ++ p.name) = [] := by
  obtain ⟨name, hid, hname⟩ := p.name_cases
  have hclause : declaredNames ("package " ++ name) = [] := by
    exact declaredNames_of_start (c := 'p') rfl (by decide)
      (isOneLine_append.2 ⟨by decide, hid.isOneLine⟩)
  rcases hname with h | h <;> rw [h]
  · exact hclause
  · rw [← String.append_assoc, ← String.append_empty (s := "package " ++ name ++ "\n"),
      declaredNames, linesOf_append_break, List.filterMap_append, ← declaredNames, hclause]
    decide

theorem declaredNames_commentLine (text : String) : declaredNames (commentLine text) = [] :=
  declaredNames_of_start (c := '/') rfl (by decide) (isOneLine_commentLine text)

theorem declaredNames_tab {l : String} (h : IsOneLine l) : declaredNames ("\t" ++ l) = [] :=
  declaredNames_of_start (c := '\t') rfl (by decide) (isOneLine_append.2 ⟨by decide, h⟩)

theorem declaredNames_fieldLines {f : GoField} (h : f.FitsLine) :
    ["\t" ++ commentLine f.comment, f.plannedLine].flatMap declaredNames = [] := by
  have hline := h.isOneLine
  rw [Outline.plannedLine_eq] at hline ⊢
  simp [declaredNames_tab (isOneLine_commentLine f.comment),
    declaredNames_tab (isOneLine_append.1 hline).2]

theorem declaredNames_importBlock (paths : List String) :
    (if paths = [] then [] else ["import ("] ++ paths.map importLine ++ [")", ""]).flatMap
      declaredNames = [] := by
  have hpath : ∀ path, declaredNames (importLine path) = [] :=
    fun path => declaredNames_tab (isOneLine_quote path)
  have hfixed : declaredNames "import (" = [] ∧ declaredNames ")" = [] ∧ declaredNames "" = [] := by
    decide
  split
  · rfl
  · simp [List.flatMap_map, hpath, hfixed]

/-- The file of a struct declares the struct. -/
theorem declaredNames_render {s : GoStruct} {p : Package}
    (hname : ∀ c ∈ s.name.toList, isWordChar c = true) (hfields : ∀ f ∈ s.fields, f.FitsLine) :
    declaredNames (s.render p) = [s.name] := by
  have hbody : (s.fields.flatMap fun f => ["\t" ++ commentLine f.comment, f.plannedLine]).flatMap
      declaredNames = [] := by
    rw [List.flatMap_assoc, List.flatMap_eq_nil_iff]
    exact fun f hf => declaredNames_fieldLines (hfields f hf)
  have hfunc : declaredNames ("func (" ++ s.name ++ ") TableName() string \x7b") = [] := by
    rw [String.append_assoc]
    refine declaredNames_of_start (c := 'f') rfl (by decide) ?_
    simp +decide [isOneLine_append, isOneLine_of_isWordChar hname]
  have hreturn : declaredNames ("\treturn " ++ Text.quote s.tableName) = [] :=
    declaredNames_of_start (c := '\t') rfl (by decide)
      (isOneLine_append.2 ⟨by decide, isOneLine_quote _⟩)
  have hfixed : declaredNames fileHeader = [] ∧ declaredNames "" = [] ∧
      declaredNames "\x7d" = [] := by decide
  rw [GoStruct.render, GoStruct.lines_eq_plan hfields, declaredNames_fileText, GoStruct.plan]
  simp only [List.flatMap_append, declaredNames_importBlock, hbody]
  simp [hfixed, hfunc, hreturn, declaredNames_package, declaredNames_commentLine,
    declaredNames_type hname]

/-- The connection file declares the handle of the database. -/
theorem declaredNames_connection (d : Dialect) (dsn driverPackage : String) (p : Package) :
    declaredNames (fileText (connectionLines d dsn driverPackage p)) = ["DB"] := by
  have himport : ∀ i : Import, declaredNames i.line = [] := by
    intro i
    unfold Import.line Import.binding
    rw [String.append_assoc]
    refine declaredNames_tab (isOneLine_append.2 ⟨?_, isOneLine_quote _⟩)
    split <;> decide
  have hopen : declaredNames ("\tDB, err = gorm.Open(" ++ d.expression dsn ++
      ", &gorm.Config\x7b\x7d)") = [] := by
    rw [String.append_assoc]
    refine declaredNames_of_start (c := '\t') rfl (by decide) ?_
    cases d <;> simp +decide [isOneLine_append, isOneLine_quote, Dialect.expression, Dialect.frame]
  have hfixed : [fileHeader, "", "import (", "\t\"log\"", ")",
      "// DB is the database handle shared by the generated models.", "func init() \x7b",
      "\tvar err error", "\tif err != nil \x7b",
      "\t\tlog.Fatalf(\"Got error when connect database, the error is '%v'\", err)",
      "\t\x7d", "\x7d"].flatMap declaredNames = [] := by
    decide +kernel
  have hhandle : declaredNames "var DB *gorm.DB" = ["DB"] := by decide +kernel
  simp only [List.flatMap_cons, List.append_eq_nil_iff] at hfixed
  rw [declaredNames_fileText, connectionLines, openingLines]
  simp [List.flatMap_map, himport, hopen, hfixed, hhandle, declaredNames_package]

end StructGen
