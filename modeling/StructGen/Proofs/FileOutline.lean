import StructGen.Proofs.FileLines
/-!
# Files read back

`readFile` reads the outline of a struct's file from its lines: the package, the imports, the struct
with its fields and tags, and the table. Comments and empty lines do not count. `file_read`: from the
file of every struct that is synthesized, split at its line breaks, exactly its outline is read.
-/
namespace StructGen

/-- What is read from the file of a struct. -/
structure Outline where
  package : String
  imports : List String
  structName : String
  /-- Name, type and tag of each field. -/
  fields : List (String × String × String)
  tableName : String
deriving DecidableEq, Repr

namespace Outline

/-! ## Reading -/

/-- What follows a start. -/
def after? (start text : String) : Option String :=
  (start.toList.isPrefixOf? text.toList).map String.ofList

/-- What stands between a start and a stop. -/
def between? (start stop text : String) : Option String :=
  (after? start text).bind fun s => (stop.toList.isSuffixOf? s.toList).map String.ofList

/-- The line is not empty and no comment. -/
def isCode (line : String) : Bool :=
  match line.toList.dropWhile (· == '\t') with
  | [] => false
  | '/' :: '/' :: _ => false
  | _ => true

/-- The word up to the next space, and what follows the space. -/
def readWord (s : List Char) : Option (String × List Char) :=
  match s.dropWhile (· != ' ') with
  | [] => none
  | _ :: rest => some (String.ofList (s.takeWhile (· != ' ')), rest)

/-- The path that a line imports. -/
def readImport (line : String) : Option String :=
  (after? "\t" line).bind readLiteral

/-- The name, the type and the tag of a field. -/
def readField (line : String) : Option (String × String × String) := do
  let s ← after? "\t" line
  let (name, s) ← readWord s.toList
  let (type, s) ← readWord s
  let tag ← readLiteral (String.ofList s)
  return (name, type, tag)

/-- The lines of a block up to the one that closes it, and the lines after it. -/
def readBlock {α : Type} (read : String → Option α) (close : String) :
    List String → Option (List α × List String)
  | [] => none
  | line :: rest =>
    if line = close then some ([], rest)
    else do
      let a ← read line
      let (as, rest) ← readBlock read close rest
      return (a :: as, rest)

/-- The imports, if there are any, and the lines after them. -/
def readImports : List String → Option (List String × List String)
  | [] => none
  | line :: rest =>
    if line = "import (" then readBlock readImport ")" rest else some ([], line :: rest)

/-- The struct and the lines after it. -/
def readStruct : List String →
    Option (String × List (String × String × String) × List String)
  | [] => none
  | line :: rest => do
    let name ← between? "type " " struct \x7b" line
    let (fields, rest) ← readBlock readField "\x7d" rest
    return (name, fields, rest)

/-- The table that the method of a struct returns. -/
def readTable (structName : String) : List String → Option String
  | [opening, result, "\x7d"] =>
    if opening = "func (" ++ structName ++ ") TableName() string \x7b" then
      (after? "\treturn " result).bind readLiteral
    else none
  | _ => none

end Outline

open Outline in
/-- Reads the outline of a file from its lines. -/
def readFile (lines : List String) : Option Outline :=
  match lines.filter isCode with
  | [] => none
  | clause :: rest => do
    let package ← after? "package " clause
    let (imports, rest) ← readImports rest
    let (structName, fields, rest) ← readStruct rest
    let tableName ← readTable structName rest
    return { package, imports, structName, fields, tableName }

/-- The outline of the file of a struct. -/
def GoStruct.outline (s : GoStruct) (package : String) : Outline where
  package
  imports := s.imports
  structName := s.name
  fields := s.fields.map fun f => (f.name, f.type, f.tag)
  tableName := s.tableName

namespace Outline

/-! ## Lines that are read -/

theorem after?_append (start rest : String) : after? start (start ++ rest) = some rest := by
  have hprefix : start.toList.isPrefixOf? (start ++ rest).toList = some rest.toList := by
    rw [List.isPrefixOf?_eq_some_iff_append_eq, String.toList_append]
  rw [after?, hprefix, Option.map_some, String.ofList_toList]

theorem between?_append (start stop name : String) :
    between? start stop (start ++ name ++ stop) = some name := by
  have hsuffix : stop.toList.isSuffixOf? (name ++ stop).toList = some name.toList := by
    rw [List.isSuffixOf?_eq_some_iff_append_eq, String.toList_append]
  rw [between?, String.append_assoc, after?_append, Option.bind_some, hsuffix, Option.map_some,
    String.ofList_toList]

theorem readWord_append {word : String} (h : ∀ c ∈ word.toList, c ≠ ' ') (rest : List Char) :
    readWord (word.toList ++ ' ' :: rest) = some (word, rest) := by
  have hword : ∀ c ∈ word.toList, (c != ' ') = true := fun c hc => bne_iff_ne.2 (h c hc)
  unfold readWord
  rw [Text.dropWhile_stop hword (by decide), Text.takeWhile_stop hword (by decide),
    String.ofList_toList]

theorem readImport_importLine (path : String) : readImport (importLine path) = some path := by
  rw [readImport, importLine, after?_append, Option.bind_some, readLiteral_quote]

theorem plannedLine_eq (f : GoField) :
    f.plannedLine = "\t" ++ (f.name ++ " " ++ f.type ++ " " ++ tagLiteral f.tag) := by
  simp [GoField.plannedLine, String.append_assoc]

theorem readField_plannedLine {f : GoField} (h : f.FitsLine) :
    readField f.plannedLine = some (f.name, f.type, f.tag) := by
  have hname : ∀ c ∈ f.name.toList, c ≠ ' ' := fun c hc => (ne_of_isWordChar (h.name c hc)).1
  have htype : ∀ c ∈ f.type.toList, c ≠ ' ' := fun c hc => (h.type c hc).1
  have htag : '\r' ∉ f.tag.toList := Text.not_mem_of_le h.tag.2 (by decide)
  have hwords : (f.name ++ " " ++ f.type ++ " " ++ tagLiteral f.tag).toList =
      f.name.toList ++ ' ' :: (f.type.toList ++ ' ' :: (tagLiteral f.tag).toList) := by
    simp [String.toList_append]
  unfold readField
  rw [plannedLine_eq, after?_append]
  simp only [Option.bind_eq_bind, Option.bind_some, hwords, readWord_append hname,
    readWord_append htype, String.ofList_toList, readLiteral_tagLiteral htag]
  rfl

theorem readBlock_map {α β : Type} {read : String → Option β} {close : String}
    {line : α → String} {value : α → β} {as : List α}
    (hread : ∀ a ∈ as, read (line a) = some (value a)) (hclose : ∀ a ∈ as, line a ≠ close) (rest : List String) :
    readBlock read close (as.map line ++ close :: rest) = some (as.map value, rest) := by
  induction as with
  | nil => simp [readBlock]
  | cons a as ih =>
    rw [List.forall_mem_cons] at hread hclose
    rw [List.map_cons, List.cons_append, readBlock, if_neg hclose.1, hread.1, ih hread.2 hclose.2]
    rfl

/-! ## Lines that count -/

theorem isCode_tab (s : String) : isCode ("\t" ++ s) = isCode s := by
  simp [isCode, String.toList_append]

/-- A line is code if it begins with anything but a tabulator or a slash. -/
theorem isCode_of_head {line : String} {c : Char} (h : line.toList.head? = some c)
    (htab : c ≠ '\t') (hslash : c ≠ '/') : isCode line = true := by
  obtain ⟨rest, hrest⟩ := List.head?_eq_some_iff.1 h
  unfold isCode
  rw [hrest, List.dropWhile_cons_of_neg (by simpa using htab)]
  split
  · next hnil => cases hnil
  · next hcomment =>
    cases hcomment
    exact absurd rfl hslash
  · rfl

theorem isCode_commentLine (text : String) : isCode (commentLine text) = false := by
  simp [isCode, commentLine, String.toList_append]

theorem isCode_importLine (path : String) : isCode (importLine path) = true := by
  rw [importLine, isCode_tab]
  exact isCode_of_head (c := '"') (by simp [Text.quote_toList]) (by decide) (by decide)

theorem isCode_plannedLine {f : GoField} (h : f.FitsLine) : isCode f.plannedLine = true := by
  rw [plannedLine_eq, isCode_tab]
  -- A line that begins with the name, or with the space after it, is no comment.
  cases hname : f.name.toList with
  | nil =>
    exact isCode_of_head (c := ' ') (by simp [String.toList_append, hname]) (by decide) (by decide)
  | cons c rest =>
    have hc : Naming.isWordChar c = true := h.name c (by rw [hname]; exact List.mem_cons_self)
    refine isCode_of_head (c := c) (by simp [String.toList_append, hname]) ?_ ?_ <;>
      rintro rfl <;> revert hc <;> decide

end Outline

/-- The lines of the file of a struct that count. -/
def GoStruct.codeLines (s : GoStruct) (package : String) : List String :=
  ("package " ++ package) ::
    ((if s.imports = [] then [] else "import (" :: (s.imports.map importLine ++ [")"])) ++
      ("type " ++ s.name ++ " struct \x7b") ::
        (s.fields.map GoField.plannedLine ++
          ["\x7d", "func (" ++ s.name ++ ") TableName() string \x7b",
            "\treturn " ++ Text.quote s.tableName, "\x7d"]))

open Outline in
theorem GoStruct.filter_plan {s : GoStruct} (hfields : ∀ f ∈ s.fields, f.FitsLine)
    (package : String) : (s.plan package ++ [""]).filter isCode = s.codeLines package := by
  have hkept : (s.fields.flatMap fun f => ["\t" ++ commentLine f.comment, f.plannedLine]).filter
      isCode = s.fields.map GoField.plannedLine := by
    rw [List.filter_flatMap, List.map_eq_flatMap]
    refine List.flatMap_congr fun f hf => ?_
    simp [isCode_tab, isCode_commentLine, isCode_plannedLine (hfields f hf)]
  have hliteral : isCode fileHeader = false ∧ isCode "" = false ∧ isCode "import (" = true ∧
      isCode ")" = true ∧ isCode "\x7d" = true := by decide
  obtain ⟨hheader, hempty, hopen, hclose, hend⟩ := hliteral
  have hstart : ∀ rest, isCode ("package " ++ rest) = true ∧ isCode ("type " ++ rest) = true ∧
      isCode ("func (" ++ rest) = true ∧ isCode ("\treturn " ++ rest) = true := by
    intro rest
    simp [isCode, String.toList_append]
  have himports : (if s.imports = [] then []
      else ["import ("] ++ s.imports.map importLine ++ [")", ""]).filter isCode =
      if s.imports = [] then [] else "import (" :: (s.imports.map importLine ++ [")"]) := by
    have hpaths : (s.imports.map importLine).filter isCode = s.imports.map importLine := by
      rw [List.filter_eq_self, List.forall_mem_map]
      exact fun path _ => isCode_importLine path
    split
    · rfl
    · simp [hpaths, hopen, hclose, hempty]
  rw [plan, codeLines]
  -- The three parts of varying length are done; what is left is a fixed list of lines.
  simp only [List.filter_append, hkept, himports]
  simp [hheader, hempty, hend, hstart, isCode_commentLine, String.append_assoc]

/-! ## The whole file -/

namespace Outline

theorem readImports_codeLines (paths : List String) {line : String} (h : line ≠ "import (")
    (rest : List String) :
    readImports ((if paths = [] then [] else "import (" :: (paths.map importLine ++ [")"])) ++
      line :: rest) = some (paths, line :: rest) := by
  split
  · next hnil =>
    rw [hnil, List.nil_append, readImports, if_neg h]
  · have hclose : ∀ path ∈ paths, importLine path ≠ ")" := by
      intro path _ h
      have hlist := congrArg String.toList h
      simp [importLine, String.toList_append] at hlist
    have hread : ∀ path ∈ paths, readImport (importLine path) = some path :=
      fun path _ => readImport_importLine path
    have hblock := readBlock_map hread hclose (line :: rest)
    simpa [readImports] using hblock

theorem readStruct_codeLines {s : GoStruct} (hfields : ∀ f ∈ s.fields, f.FitsLine)
    (rest : List String) :
    readStruct (("type " ++ s.name ++ " struct \x7b") ::
        (s.fields.map GoField.plannedLine ++ "\x7d" :: rest)) =
      some (s.name, s.fields.map (fun f => (f.name, f.type, f.tag)), rest) := by
  have hclose : ∀ f ∈ s.fields, f.plannedLine ≠ "\x7d" := by
    intro f _ h
    have hlist := congrArg String.toList h
    simp [plannedLine_eq, String.toList_append] at hlist
  have hblock := readBlock_map (fun f hf => readField_plannedLine (hfields f hf)) hclose rest
  simp only [readStruct, between?_append, hblock]
  rfl

theorem readTable_codeLines (structName tableName : String) :
    readTable structName ["func (" ++ structName ++ ") TableName() string \x7b",
      "\treturn " ++ Text.quote tableName, "\x7d"] = some tableName := by
  rw [readTable, if_pos rfl, after?_append, Option.bind_some, readLiteral_quote]

end Outline

open Outline in
/-- From the planned lines of a file its outline is read. -/
theorem readFile_plan {s : GoStruct} (hfields : ∀ f ∈ s.fields, f.FitsLine) (package : String) :
    readFile (s.plan package ++ [""]) = some (s.outline package) := by
  have hopening : "type " ++ s.name ++ " struct \x7b" ≠ "import (" := by
    intro h
    have hlist := congrArg String.toList h
    simp [String.toList_append] at hlist
  unfold readFile
  rw [GoStruct.filter_plan hfields, GoStruct.codeLines]
  simp only [Option.bind_eq_bind, Option.bind_some, after?_append, readImports_codeLines _ hopening,
    readStruct_codeLines hfields, readTable_codeLines]
  rfl

theorem Package.ofName_of_isIdentifier {name : String} (h : IsIdentifier name) :
    ∃ p, Package.ofName name = .ok p ∧ p.name = name := by
  have hvalid : isPackageName name = true := by
    obtain ⟨c, rest, hname, hc, hrest⟩ := h
    unfold isPackageName
    rw [hname]
    simp [hc, List.dropWhile_eq_nil_iff.2 hrest]
  exact ⟨⟨name, hvalid⟩, dif_pos hvalid, rfl⟩

/-- The file of a struct that is synthesized has the planned lines, whatever texts the schema holds,
and its outline is read from them. -/
theorem file_read {m : Model} {links : List Link} {s : GoStruct} {package : String}
    (h : m.synthesize links = .ok s)
    (hlinks : ∀ l ∈ links, ∃ target, l.targetStruct = goName target)
    (hpackage : IsIdentifier package) :
    ∃ p, Package.ofName package = .ok p ∧
      linesOf (s.render p) = s.plan package ++ [""] ∧
      readFile (linesOf (s.render p)) = some (s.outline package) := by
  have hfields := fitsLine_of_synthesize h hlinks
  have hname : IsOneLine s.name := by
    obtain ⟨columns, rfl, -⟩ := Model.struct_of_synthesize h
    exact isOneLine_of_isWordChar (goName_chars m.name)
  obtain ⟨p, hp, rfl⟩ := Package.ofName_of_isIdentifier hpackage
  have hlines := GoStruct.linesOf_render hname hpackage.isOneLine hfields
  exact ⟨p, hp, hlines, by rw [hlines, readFile_plan hfields]⟩

/-- Logs whose texts hold what ends lines, literals, comments and structs. -/
def logs : Model where
  name := "log\nentry"
  tableName := "logs\"\n\x7d\u2028"
  columns := [
    { name := "id", sourceType := "integer", isPrimaryKey := true },
    { name := "at */ \x60json:\"x\"\x60\n\x7d", sourceType := "\nDateTime\t", hasDefault := true
      defaultValue := .text "\r\n// \x60" }]

/-- The authors of logs, through a table with a line break in its name. -/
def logAuthors : Link where
  association := {
    name := "authors\n", kind := .manyToMany, target := "Author", foreignKey := "log_id",
    joinTable := some "authors\nlogs" }
  targetStruct := goName "Author"
  cardinality := .many

theorem logs_read : ∃ s p, logs.synthesize [logAuthors] = .ok s ∧
    (∀ l ∈ [logAuthors], ∃ target, l.targetStruct = goName target) ∧ IsIdentifier "_v2" ∧
    Package.ofName "_v2" = .ok p ∧
    linesOf (s.render p) = s.plan "_v2" ++ [""] ∧
    readFile (linesOf (s.render p)) = some (s.outline "_v2") := by
  obtain ⟨s, hs⟩ : ∃ s, logs.synthesize [logAuthors] = .ok s :=
    Model.exists_struct (by decide +kernel)
  have hlinks : ∀ l ∈ [logAuthors], ∃ target, l.targetStruct = goName target :=
    List.forall_mem_singleton.2 ⟨"Author", rfl⟩
  have hpackage : IsIdentifier "_v2" :=
    ⟨'_', ['v', '2'], rfl, rfl, List.forall_mem_cons.2 ⟨rfl, List.forall_mem_singleton.2 rfl⟩⟩
  obtain ⟨p, hp, hlines, hread⟩ := file_read hs hlinks hpackage
  exact ⟨s, p, hs, hlinks, hpackage, hp, hlines, hread⟩

/-! ## Files of any package -/

/-- The name of a package is an identifier, and a line break may follow it. -/
theorem Package.name_cases (p : Package) :
    ∃ name, IsIdentifier name ∧ (p.name = name ∨ p.name = name ++ "\n") := by
  obtain ⟨name, hvalid⟩ := p
  unfold isPackageName at hvalid
  split at hvalid
  · cases hvalid
  · next c rest hname =>
    rw [Bool.and_eq_true, Bool.or_eq_true, beq_iff_eq, beq_iff_eq] at hvalid
    obtain ⟨hc, hend⟩ := hvalid
    obtain ⟨front, hfront, hrest⟩ : ∃ front, (∀ d ∈ front, isNameChar d = true) ∧
        (rest = front ∨ rest = front ++ ['\n']) := by
      have hsplit := List.takeWhile_append_dropWhile (p := isNameChar) (l := rest)
      refine ⟨rest.takeWhile isNameChar, fun d => List.mem_takeWhile_imp, hend.imp ?_ ?_⟩ <;>
        intro h <;> rw [h] at hsplit
      · rw [List.append_nil] at hsplit
        exact hsplit.symm
      · exact hsplit.symm
    have hid : IsIdentifier (String.ofList (c :: front)) :=
      ⟨c, front, String.toList_ofList, hc, hfront⟩
    refine ⟨String.ofList (c :: front), hid, hrest.imp ?_ ?_⟩ <;>
      rintro rfl <;> simp [← String.toList_inj, hname, String.toList_append]

open Outline in
/-- The lines of a file that count are the same if a line break follows the name of its package. -/
theorem GoStruct.filter_linesOf {s : GoStruct} {name package : String} (hname : IsOneLine s.name)
    (hid : IsIdentifier name) (hpackage : package = name ∨ package = name ++ "\n")
    (hfields : ∀ f ∈ s.fields, f.FitsLine) :
    (linesOf (fileText (s.plan package))).filter isCode = s.codeLines name := by
  have hone := isOneLine_of_mem_plan hname hid.isOneLine hfields
  have hcode := filter_plan hfields name
  rcases hpackage with rfl | rfl
  · rw [linesOf_fileText hone (by simp [plan]), hcode]
  · obtain ⟨rest, hplan⟩ : ∃ rest, ∀ package,
        s.plan package = [fileHeader, "", "package " ++ package] ++ rest :=
      ⟨_, fun _ => by rw [plan, List.append_assoc, List.append_assoc, List.append_assoc]; rfl⟩
    have hclause : linesOf ("package " ++ (name ++ "\n")) = ["package " ++ name, ""] := by
      have hbreak := linesOf_append_break ("package " ++ name) ""
      rw [String.append_empty, String.append_assoc] at hbreak
      rw [hbreak, linesOf_of_isOneLine (isOneLine_append.2 ⟨by decide, hid.isOneLine⟩)]
      rfl
    have hheader : linesOf fileHeader = [fileHeader] ∧ linesOf "" = [""] := by decide
    rw [hplan] at hone hcode
    have hrest : rest.flatMap linesOf = rest :=
      flatMap_linesOf fun l hl => hone l (List.mem_append_right _ hl)
    have hempty : isCode "" = false := by decide
    rw [linesOf_fileText_flatMap (by simp [plan]), ← hcode, hplan]
    simp [hheader, hclause, hrest, List.filter_cons, hempty]

/-- From the file of a struct its outline is read, in every package. -/
theorem GoStruct.readFile_render {s : GoStruct} (hname : IsOneLine s.name)
    (hfields : ∀ f ∈ s.fields, f.FitsLine) (p : Package) :
    ∃ package, readFile (linesOf (s.render p)) = some (s.outline package) := by
  obtain ⟨name, hid, hp⟩ := p.name_cases
  have hplan := readFile_plan hfields name
  refine ⟨name, ?_⟩
  rw [← hplan, render, lines_eq_plan hfields, readFile, readFile, filter_linesOf hname hid hp hfields,
    filter_plan hfields]

end StructGen
