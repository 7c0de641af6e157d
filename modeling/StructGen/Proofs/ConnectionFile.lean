import StructGen.Database
import StructGen.Proofs.FileOutline
import StructGen.Source.Connection
/-!
# The connection file read back

`connection_read`: the connection file has the same lines whatever it connects to, but for the
package clause, three imports and the line that opens the database. From these the package, the
imports, the driver and the data source name are read as they were given: quoting keeps a literal
on its line and ends it where the text ends. A package of a driver is imported by its path, however
the path is spelled.
-/
namespace StructGen

/-! ## Spellings of a path -/

/-- The text is nothing but white space. -/
def IsBlankText (s : String) : Prop :=
  ∀ c ∈ s.toList, Text.isBlank c = true

/-- A path that can stand alone: without white space, quotation marks and an underscore in front. -/
structure IsImportPath (path : String) : Prop where
  plain : ∀ c ∈ path.toList, Text.isBlank c = false ∧ (c == '"') = false
  head : path.toList.head? ≠ some '_'

/-- The spellings of a path: as it is, in quotes, and in quotes behind the blank name, each with
white space around it. -/
inductive IsSpelling (path : String) : String → Prop
  | bare {before after : String} (hbefore : IsBlankText before) (hafter : IsBlankText after) :
    IsSpelling path (before ++ path ++ after)
  | quoted {before after : String} (hbefore : IsBlankText before) (hafter : IsBlankText after) :
    IsSpelling path (before ++ ("\"" ++ path ++ "\"") ++ after)
  | blank {before between after : String} (hbefore : IsBlankText before)
    (hbetween : IsBlankText between) (hafter : IsBlankText after) :
    IsSpelling path (before ++ ("_" ++ between ++ ("\"" ++ path ++ "\"")) ++ after)

namespace Text

variable {p : Char → Bool} {before s after : List Char}

theorem dropWhile_of_head (h : ∀ c ∈ s.head?, p c = false) : s.dropWhile p = s := by
  cases s with
  | nil => rfl
  | cons c s => exact List.dropWhile_cons_of_neg (by simp [h c rfl])

/-- A text is stripped of what stands around it, if it has nothing to strip at its own ends. -/
theorem strip_append (hbefore : ∀ c ∈ before, p c = true) (hafter : ∀ c ∈ after, p c = true)
    (hhead : ∀ c ∈ s.head?, p c = false) (hlast : ∀ c ∈ s.getLast?, p c = false) :
    strip p (before ++ s ++ after) = s := by
  have hback : (s ++ after).reverse.dropWhile p = s.reverse := by
    rw [List.reverse_append,
      List.dropWhile_append_of_pos fun c hc => hafter c (List.mem_reverse.1 hc)]
    exact dropWhile_of_head (by simpa using hlast)
  unfold strip
  rw [List.append_assoc, List.dropWhile_append_of_pos hbefore]
  cases s with
  | nil =>
    have hnil : after.dropWhile p = [] := List.dropWhile_eq_nil_iff.2 hafter
    simp [hnil]
  | cons c s =>
    have hfront : (c :: s ++ after).dropWhile p = c :: s ++ after := dropWhile_of_head hhead
    rw [hfront, hback, List.reverse_reverse]

end Text

namespace IsImportPath

variable {path : String}

theorem ends (h : IsImportPath path) : (∀ c ∈ path.toList.head?, Text.isBlank c = false) ∧
    ∀ c ∈ path.toList.getLast?, Text.isBlank c = false :=
  ⟨fun c hc => (h.plain c (List.mem_of_head? hc)).1,
    fun c hc => (h.plain c (List.mem_of_getLast? hc)).1⟩

theorem quoted_toList (path : String) :
    ("\"" ++ path ++ "\"").toList = ['"'] ++ path.toList ++ ['"'] := by
  simp [String.toList_append]

theorem quoted_ends (path : String) :
    (∀ c ∈ ("\"" ++ path ++ "\"").toList.head?, Text.isBlank c = false) ∧
      ∀ c ∈ ("\"" ++ path ++ "\"").toList.getLast?, Text.isBlank c = false := by
  have hquote : Text.isBlank '"' = false := by decide
  rw [quoted_toList]
  refine ⟨by simp [hquote], ?_⟩
  rw [List.getLast?_concat]
  simp [hquote]

/-- A path is freed from its quotes. -/
theorem strip_quotes (h : IsImportPath path) {before after : List Char}
    (hbefore : ∀ c ∈ before, (c == '"') = true) (hafter : ∀ c ∈ after, (c == '"') = true) :
    Text.strip (· == '"') (before ++ path.toList ++ after) = path.toList :=
  Text.strip_append hbefore hafter (fun c hc => (h.plain c (List.mem_of_head? hc)).2)
    fun c hc => (h.plain c (List.mem_of_getLast? hc)).2

end IsImportPath

/-- Every spelling of a path stands for it. -/
theorem driverPath_of_spelling {path spelling : String} (h : IsImportPath path)
    (hs : IsSpelling path spelling) : driverPath spelling = path := by
  have hquotes : Text.strip (· == '"') (['"'] ++ path.toList ++ ['"']) = path.toList :=
    h.strip_quotes (by simp) (by simp)
  have hends := IsImportPath.quoted_ends path
  unfold driverPath
  cases hs with
  | bare hbefore hafter =>
    have hstrip := Text.strip_append hbefore hafter h.ends.1 h.ends.2
    have hself : Text.strip (· == '"') ([] ++ path.toList ++ []) = path.toList :=
      h.strip_quotes (by simp) (by simp)
    simp only [String.toList_append, hstrip]
    split
    · next rest hpath => exact absurd (by rw [hpath]; rfl) h.head
    · rw [← String.toList_inj, String.toList_ofList]
      simpa using hself
  | quoted hbefore hafter =>
    have hstrip := Text.strip_append hbefore hafter hends.1 hends.2
    rw [IsImportPath.quoted_toList] at hstrip
    rw [String.toList_append, String.toList_append, IsImportPath.quoted_toList, hstrip]
    -- The text begins with a quotation mark, so there is no blank name to drop.
    change String.ofList (Text.strip (· == '"') (['"'] ++ path.toList ++ ['"'])) = path
    rw [hquotes, String.ofList_toList]
  | @blank before between after hbefore hbetween hafter =>
    have hinner : Text.strip Text.isBlank
        (between.toList ++ ("\"" ++ path ++ "\"").toList ++ []) = ("\"" ++ path ++ "\"").toList :=
      Text.strip_append hbetween (by simp) hends.1 hends.2
    have hlist : ("_" ++ between ++ ("\"" ++ path ++ "\"")).toList =
        '_' :: (between.toList ++ ("\"" ++ path ++ "\"").toList) := by
      simp [String.toList_append]
    have hunderscore : Text.isBlank '_' = false := by decide
    have houter := Text.strip_append
      (s := '_' :: (between.toList ++ ("\"" ++ path ++ "\"").toList)) hbefore hafter
      (by simp [hunderscore])
      (by simpa [IsImportPath.quoted_toList, List.getLast?_cons, List.getLast?_append] using hends.2)
    rw [List.append_nil] at hinner
    rw [String.toList_append, String.toList_append, hlist, houter]
    simp only [hinner]
    rw [IsImportPath.quoted_toList, hquotes, String.ofList_toList]

/-! ## Imports in order -/

theorem Import.le_iff {a b : Import} :
    Import.le a b = true ↔ a.path < b.path ∨ a.path = b.path ∧ (a.blank = true → b.blank = true) := by
  unfold le
  rw [Bool.or_eq_true, decide_eq_true_eq, Bool.and_eq_true, beq_iff_eq]
  cases a.blank <;> cases b.blank <;> simp

theorem Import.le_total (a b : Import) : (Import.le a b || Import.le b a) = true := by
  rw [Bool.or_eq_true, le_iff, le_iff]
  rcases lt_trichotomy a.path b.path with h | h | h
  · exact .inl (.inl h)
  · by_cases hb : b.blank = true
    · exact .inl (.inr ⟨h, fun _ => hb⟩)
    · exact .inr (.inr ⟨h.symm, fun hb' => absurd hb' hb⟩)
  · exact .inr (.inl h)

theorem Import.le_trans (a b c : Import) (hab : Import.le a b = true) (hbc : Import.le b c = true) :
    Import.le a c = true := by
  rw [le_iff] at hab hbc ⊢
  rcases hab with hab | ⟨hab, hblank⟩ <;> rcases hbc with hbc | ⟨hbc, hblank'⟩
  · exact .inl (hab.trans hbc)
  · exact .inl (hbc ▸ hab)
  · exact .inl (hab ▸ hbc)
  · exact .inr ⟨hab.trans hbc, fun h => hblank' (hblank h)⟩

theorem Import.path_le {a b : Import} (h : Import.le a b = true) : a.path ≤ b.path := by
  rcases Import.le_iff.1 h with h | ⟨h, -⟩
  · exact le_of_lt h
  · exact le_of_eq h

theorem connectionImports_sorted (d : Dialect) (driverPackage : String) :
    (connectionImports d driverPackage).Pairwise fun a b => a.path ≤ b.path :=
  (List.pairwise_mergeSort Import.le_trans Import.le_total _).imp Import.path_le

theorem connectionImports_perm (d : Dialect) (driverPackage : String) :
    (connectionImports d driverPackage).Perm
      [⟨driverPath driverPackage, true⟩, ⟨d.importPath, false⟩, ⟨"gorm.io/gorm", false⟩] :=
  List.mergeSort_perm _ _

/-! ## Reading -/

/-- What is read from a connection file. -/
structure ConnectionOutline where
  package : String
  imports : List Import
  dialect : Dialect
  driverName : String
  dsn : String
deriving DecidableEq, Repr

namespace ConnectionOutline

open Outline

/-- The import of a line. -/
def readBinding (line : String) : Option Import :=
  match after? "\t_ " line with
  | some path => (readLiteral path).map fun path => ⟨path, true⟩
  | none => ((after? "\t" line).bind readLiteral).map fun path => ⟨path, false⟩

/-- A literal in double quotes, and what follows it. -/
def readQuoted : List Char → Option (String × List Char)
  | '"' :: s => do
    let (bytes, rest) ← Literal.readInterpreted s
    let text ← Literal.textOf? bytes
    return (text, rest)
  | _ => none

/-- The driver's name and the data source name in a line that opens a database of a dialect. -/
def readOpeningOf (d : Dialect) (line : String) : Option (String × String) := do
  let s ← after? ("\tDB, err = gorm.Open(" ++ d.frame.1 ++ "DriverName: ") line
  let (driverName, s) ← readQuoted s.toList
  let s ← after? ", DSN: " (String.ofList s)
  let (dsn, s) ← readQuoted s.toList
  if String.ofList s = d.frame.2 ++ ", &gorm.Config\x7b\x7d)" then some (driverName, dsn) else none

/-- The dialect, the driver's name and the data source name in the line that opens the database. -/
def readOpening (line : String) : Option (Dialect × String × String) :=
  Dialect.all.findSome? fun d => (readOpeningOf d line).map fun settings => (d, settings)

end ConnectionOutline

/-- The lines of a connection file around its clause, its imports and the line that opens the
database. -/
def connectionFrame (clause : String) (imports : List String) (opening : String) : List String :=
  ["// Code generated by ormgo. DO NOT EDIT.", "", clause, "", "import (", "\t\"log\"", ""] ++
    imports ++
    [")", "", "// DB is the database handle shared by the generated models.", "var DB *gorm.DB", "",
      "func init() \x7b", "\tvar err error", opening, "\tif err != nil \x7b",
      "\t\tlog.Fatalf(\"Got error when connect database, the error is '%v'\", err)", "\t\x7d",
      "\x7d"]

open ConnectionOutline Outline in
/-- Reads the outline of a connection file from its lines: the third, the eighth to the tenth and
the eighteenth. -/
def readConnection (lines : List String) : Option ConnectionOutline := do
  let package ← lines[2]?.bind (after? "package ")
  let imports ← ((lines.drop 7).take 3).mapM readBinding
  let (dialect, driverName, dsn) ← lines[17]?.bind readOpening
  return { package, imports, dialect, driverName, dsn }

/-! ## Lines that are read -/

/-- The line that opens the database. -/
def Dialect.openingLine (d : Dialect) (dsn : String) : String :=
  "\tDB, err = gorm.Open(" ++ d.expression dsn ++ ", &gorm.Config\x7b\x7d)"

namespace ConnectionOutline

open Outline

theorem readBinding_line (i : Import) : readBinding i.line = some i := by
  obtain ⟨path, blank⟩ := i
  unfold readBinding Import.line Import.binding
  cases blank with
  | false =>
    -- A literal begins with a quotation mark, so this is no blank import.
    have hnone : after? "\t_ " ("\t" ++ "" ++ Text.quote path) = none := by
      simp [after?, String.toList_append, Text.quote_toList, List.isPrefixOf?]
    simp only [Bool.false_eq_true, if_false, hnone]
    rw [String.append_empty, after?_append, Option.bind_some, readLiteral_quote]
    rfl
  | true =>
    have hsome : after? "\t_ " ("\t" ++ "_ " ++ Text.quote path) = some (Text.quote path) :=
      after?_append "\t_ " _
    simp only [if_true, hsome, readLiteral_quote]
    rfl

/-- A quoted text is read up to its closing quotation mark, whatever it holds. -/
theorem readQuoted_quote (s : String) (rest : List Char) :
    readQuoted ((Text.quote s).toList ++ rest) = some (s, rest) := by
  rw [Text.quote_toList]
  simp [readQuoted, Literal.readInterpreted_escape, Literal.textOf_utf8Encode]

theorem openingLine_eq (d : Dialect) (dsn : String) :
    d.openingLine dsn = "\tDB, err = gorm.Open(" ++ (d.frame.1 ++ ("DriverName: " ++
      (Text.quote d.driverName ++ (", DSN: " ++ (Text.quote dsn ++
        (d.frame.2 ++ ", &gorm.Config\x7b\x7d)")))))) := by
  unfold Dialect.openingLine Dialect.expression
  simp only [String.append_assoc]

theorem readOpeningOf_openingLine (d : Dialect) (dsn : String) :
    readOpeningOf d (d.openingLine dsn) = some (d.driverName, dsn) := by
  have hline : d.openingLine dsn = "\tDB, err = gorm.Open(" ++ d.frame.1 ++ "DriverName: " ++
      (Text.quote d.driverName ++ (", DSN: " ++ (Text.quote dsn ++
        (d.frame.2 ++ ", &gorm.Config\x7b\x7d)")))) := by
    rw [openingLine_eq]
    simp only [String.append_assoc]
  rw [readOpeningOf, hline, after?_append]
  simp only [Option.bind_eq_bind, Option.bind_some, String.toList_append (s := Text.quote _),
    readQuoted_quote, String.ofList_toList, after?_append, if_true]

theorem after?_eq_none {start text : String} (h : ∀ rest, text ≠ start ++ rest) :
    after? start text = none := by
  rw [after?, Option.map_eq_none_iff, Option.eq_none_iff_forall_ne_some]
  intro rest hrest
  rw [List.isPrefixOf?_eq_some_iff_append_eq] at hrest
  refine h (String.ofList rest) ?_
  rw [← String.toList_inj, String.toList_append, String.toList_ofList, hrest]

/-- The line of a dialect does not begin as that of another: their values begin with different
letters. -/
theorem readOpeningOf_ne {d e : Dialect} (h : d ≠ e) (dsn : String) :
    readOpeningOf e (d.openingLine dsn) = none := by
  have hheads : ∃ a b, d.frame.1.toList.head? = some a ∧ e.frame.1.toList.head? = some b ∧
      a ≠ b := by
    cases d <;> cases e <;> first | exact absurd rfl h | exact ⟨_, _, rfl, rfl, by decide⟩
  obtain ⟨a, b, ha, hb, hne⟩ := hheads
  have hnone : after? ("\tDB, err = gorm.Open(" ++ e.frame.1 ++ "DriverName: ")
      (d.openingLine dsn) = none := by
    refine after?_eq_none fun rest hline => hne ?_
    rw [openingLine_eq, String.append_assoc, String.append_assoc, String.append_right_inj] at hline
    have hfirst := congrArg (fun s => s.toList.head?) hline
    simpa [String.toList_append, List.head?_append, ha, hb] using hfirst
  rw [readOpeningOf, hnone]
  rfl

theorem readOpening_openingLine (d : Dialect) (dsn : String) :
    readOpening (d.openingLine dsn) = some (d, d.driverName, dsn) := by
  have hself := readOpeningOf_openingLine d dsn
  have hother : ∀ e, d ≠ e → readOpeningOf e (d.openingLine dsn) = none :=
    fun e he => readOpeningOf_ne he dsn
  unfold readOpening Dialect.all
  cases d <;> simp [hself, hother]

end ConnectionOutline

/-! ## The whole file -/

theorem connectionLines_eq (d : Dialect) (dsn driverPackage : String) (p : Package) :
    connectionLines d dsn driverPackage p =
      connectionFrame ("package " ++ p.name) ((connectionImports d driverPackage).map Import.line)
        (d.openingLine dsn) := rfl

theorem isOneLine_connectionLines (d : Dialect) (dsn driverPackage : String) {p : Package}
    (hp : IsOneLine p.name) : ∀ l ∈ connectionLines d dsn driverPackage p, IsOneLine l := by
  have himport : ∀ i : Import, IsOneLine i.line := by
    intro i
    have hbinding : IsOneLine i.binding := by
      unfold Import.binding
      split <;> decide
    simp +decide [Import.line, isOneLine_append, hbinding, isOneLine_quote]
  have hopening : IsOneLine (d.openingLine dsn) := by
    rw [ConnectionOutline.openingLine_eq]
    cases d <;> simp +decide [Dialect.frame, isOneLine_append, isOneLine_quote]
  have hclause : IsOneLine ("package " ++ p.name) := isOneLine_append.2 ⟨by decide, hp⟩
  rw [connectionLines_eq, connectionFrame]
  simp +decide [or_imp, forall_and, himport, hopening, hclause]

theorem readConnection_frame (d : Dialect) (dsn package : String) {imports : List Import}
    (h : imports.length = 3) :
    readConnection (connectionFrame ("package " ++ package) (imports.map Import.line)
        (d.openingLine dsn) ++ [""]) =
      some { package, imports, dialect := d, driverName := d.driverName, dsn } := by
  obtain ⟨i, j, k, rfl⟩ := List.length_eq_three.1 h
  simp [readConnection, connectionFrame, Outline.after?_append, ConnectionOutline.readBinding_line,
    ConnectionOutline.readOpening_openingLine]

theorem Dialect.ofDriver_driverName (d : Dialect) : Dialect.ofDriver d.driverName = .ok d := by
  cases d <;> rfl

theorem Connection.render_eq {c : Connection} {d : Dialect} (h : c.driverName = d.driverName)
    (p : Package) : c.render p = .ok (fileText (connectionLines d c.dsn c.driverPackage p)) := by
  unfold render
  rw [h, Dialect.ofDriver_driverName]
  rfl

/-- The settings of an environment lead to a driver that is known. -/
theorem DatabaseSettings.exists_dialect {s : DatabaseSettings} {c : Connection}
    (h : s.connection? = .ok (some c)) : ∃ d : Dialect, c.driverName = d.driverName := by
  unfold connection? at h
  split at h
  · cases h
    exact ⟨.sqlite, rfl⟩
  split at h
  · obtain ⟨dsn, -, h⟩ := map_eq_ok.1 h
    cases h
    exact ⟨.mysql, rfl⟩
  split at h
  · cases h
    exact ⟨.postgres, rfl⟩
  · cases h

/-- The connection file of a known driver has fixed lines but for the clause, three imports in the
order of their paths and the line that opens the database, and what it was made from is read from
these; the spelling of the driver's package does not count. Every connection that settings lead to
has a known driver. -/
theorem connection_read {c : Connection} {package : String}
    (hdriver : c.driverName ∈ Dialect.all.map Dialect.driverName)
    (hpackage : IsIdentifier package) :
    ∃ p text d imports opening, Package.ofName package = .ok p ∧ c.render p = .ok text ∧
      d.driverName = c.driverName ∧
      linesOf text = connectionFrame ("package " ++ package) (imports.map Import.line) opening ++
        [""] ∧
      (linesOf text).length = 23 ∧
      imports.Perm [⟨driverPath c.driverPackage, true⟩, ⟨d.importPath, false⟩,
        ⟨"gorm.io/gorm", false⟩] ∧
      imports.Pairwise (fun a b => a.path ≤ b.path) ∧
      readConnection (linesOf text) =
        some { package, imports, dialect := d, driverName := c.driverName, dsn := c.dsn } ∧
      (∀ path, IsImportPath path → IsSpelling path c.driverPackage →
        { c with driverPackage := path }.render p = .ok text) ∧
      ∀ (s : DatabaseSettings) (c' : Connection), s.connection? = .ok (some c') →
        ∃ text', c'.render p = .ok text' := by
  obtain ⟨d, -, hd⟩ := List.mem_map.1 hdriver
  obtain ⟨p, hp, rfl⟩ := Package.ofName_of_isIdentifier hpackage
  have hlines := linesOf_fileText (isOneLine_connectionLines d c.dsn c.driverPackage
    hpackage.isOneLine) (by simp [connectionLines, openingLines])
  have hperm := connectionImports_perm d c.driverPackage
  rw [connectionLines_eq] at hlines
  refine ⟨p, _, d, connectionImports d c.driverPackage, d.openingLine c.dsn, hp,
    Connection.render_eq hd.symm p, hd, hlines, ?_, hperm, connectionImports_sorted d c.driverPackage,
    ?_, fun path hpath hspelling => ?_, fun s c' hc' => ?_⟩
  · rw [connectionLines_eq, hlines]
    simp [connectionFrame, hperm.length_eq]
  · rw [connectionLines_eq, hlines, readConnection_frame d c.dsn p.name hperm.length_eq, hd]
  · have hself := driverPath_of_spelling hpath
      (@IsSpelling.bare path "" "" (by simp [IsBlankText]) (by simp [IsBlankText]))
    rw [String.empty_append, String.append_empty] at hself
    rw [Connection.render_eq (c := { c with driverPackage := path }) hd.symm, connectionLines,
      connectionLines, connectionImports, connectionImports, hself,
      driverPath_of_spelling hpath hspelling]
  · obtain ⟨d', hd'⟩ := DatabaseSettings.exists_dialect hc'
    exact ⟨_, Connection.render_eq hd' p⟩

/-- A connection whose texts hold what ends literals, lines, templates and blocks, and whose driver's
package is that of its own dialect, spelled as in an import. -/
def hostileConnection : Connection where
  driverName := "sqlite3"
  dsn := "file:\x7bdsn\x7d\n\"\x7d), &gorm.Config\x7b\x7d)\\ %v \x60"
  driverPackage := "\t_ \"gorm.io/driver/sqlite\"\n"

theorem hostileConnection_read :
    hostileConnection.driverName ∈ Dialect.all.map Dialect.driverName ∧ IsIdentifier "_v2" ∧
      IsImportPath "gorm.io/driver/sqlite" ∧
      IsSpelling "gorm.io/driver/sqlite" hostileConnection.driverPackage ∧
      ∃ p text imports, Package.ofName "_v2" = .ok p ∧ hostileConnection.render p = .ok text ∧
        readConnection (linesOf text) = some {
          package := "_v2", imports, dialect := .sqlite, driverName := "sqlite3"
          dsn := hostileConnection.dsn } ∧
        { hostileConnection with driverPackage := "gorm.io/driver/sqlite" }.render p = .ok text := by
  have hdriver : hostileConnection.driverName ∈ Dialect.all.map Dialect.driverName := by decide
  have hpackage : IsIdentifier "_v2" :=
    ⟨'_', ['v', '2'], rfl, rfl, List.forall_mem_cons.2 ⟨rfl, List.forall_mem_singleton.2 rfl⟩⟩
  have hpath : IsImportPath "gorm.io/driver/sqlite" := by
    have hplain : "gorm.io/driver/sqlite".toList.all (fun c => !Text.isBlank c && !(c == '"')) =
        true := rfl
    exact ⟨by simpa using hplain, by decide⟩
  have hspelling : IsSpelling "gorm.io/driver/sqlite" hostileConnection.driverPackage :=
    @IsSpelling.blank _ "\t" " " "\n" (List.all_eq_true.1 rfl) (List.all_eq_true.1 rfl)
      (List.all_eq_true.1 rfl)
  obtain ⟨p, text, d, imports, -, hp, htext, hd, -, -, -, -, hread, hspelled, -⟩ :=
    connection_read hdriver hpackage
  have hdialect : d = .sqlite := by
    cases d <;> first | rfl | exact absurd hd (by decide)
  subst hdialect
  exact ⟨hdriver, hpackage, hpath, hspelling, p, text, imports, hp, htext, hread,
    hspelled _ hpath hspelling⟩

end StructGen
