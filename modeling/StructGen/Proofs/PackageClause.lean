import StructGen.Proofs.PackageNames
/-!
# The package clause

A package is given by a text. `package_clause_iff`: the text is accepted if and only if it is an
identifier, or an identifier with a line break behind it, and then every file opens with the clause of
this identifier and an empty line. So a text is accepted and stands as it is in the third line of each
file if and only if it is an identifier.
-/
namespace StructGen

open Outline

variable {name text : String} {p : Package}

/-! ## Texts that are accepted -/

theorem Package.name_of_ofName (h : Package.ofName text = .ok p) : p.name = text := by
  unfold ofName at h
  split at h
  · cases h
    rfl
  · cases h

/-- A line break behind an identifier is let through. -/
theorem isPackageName_append_break (h : IsIdentifier name) : isPackageName (name ++ "\n") = true := by
  obtain ⟨c, rest, hname, hc, hrest⟩ := h
  have hstop : (rest ++ ['\n']).dropWhile isNameChar = ['\n'] := by
    rw [List.dropWhile_append_of_pos hrest]
    exact List.dropWhile_cons_of_neg (by decide)
  have hlist : (name ++ "\n").toList = c :: (rest ++ ['\n']) := by
    rw [String.toList_append, hname]
    rfl
  unfold isPackageName
  rw [hlist]
  simp [hc, hstop]

theorem Package.exists_ofName_iff : (∃ p, Package.ofName text = .ok p) ↔
    ∃ name, IsIdentifier name ∧ (text = name ∨ text = name ++ "\n") := by
  constructor
  · rintro ⟨p, hp⟩
    obtain ⟨name, hid, hname⟩ := p.name_cases
    rw [name_of_ofName hp] at hname
    exact ⟨name, hid, hname⟩
  · rintro ⟨name, hid, rfl | rfl⟩
    · obtain ⟨p, hp, -⟩ := ofName_of_isIdentifier hid
      exact ⟨p, hp⟩
    · exact ⟨_, dif_pos (isPackageName_append_break hid)⟩

/-- No identifier ends in a line break. -/
theorem IsIdentifier.ne_append_break (h : IsIdentifier text) (name : String) : text ≠ name ++ "\n" := by
  rintro rfl
  exact (isOneLine_append.1 h.isOneLine).2 (by decide)

/-! ## Files of a package -/

/-- A file opens with the clause of a package: it is the third line and the first one that counts, and
the line after it is empty. -/
structure HasClause (name content : String) : Prop where
  clause : (linesOf content)[2]? = some ("package " ++ name)
  gap : (linesOf content)[3]? = some ""
  first : (linesOf content).find? isCode = some ("package " ++ name)

theorem linesOf_clause (hid : IsIdentifier name) (hp : p.name = name ∨ p.name = name ++ "\n") :
    ∃ gap, (gap = [] ∨ gap = [""]) ∧
      linesOf ("package " ++ p.name) = ("package " ++ name) :: gap := by
  have hone : IsOneLine ("package " ++ name) := isOneLine_append.2 ⟨by decide, hid.isOneLine⟩
  have hline := linesOf_of_isOneLine hone
  rcases hp with hp | hp <;> rw [hp]
  · exact ⟨[], .inl rfl, hline⟩
  · have hbreak := linesOf_append_break ("package " ++ name) ""
    have hempty : linesOf "" = [""] := by decide
    rw [String.append_empty, String.append_assoc, hline, hempty] at hbreak
    exact ⟨[""], .inr rfl, hbreak⟩

/-- All that begins with the opening lines of a package has its clause. -/
theorem hasClause_fileText (hid : IsIdentifier name) (hp : p.name = name ∨ p.name = name ++ "\n")
    (rest : List String) : HasClause name (fileText (openingLines p ++ rest)) := by
  obtain ⟨gap, hgap, hclause⟩ := linesOf_clause hid hp
  have hheader : linesOf fileHeader = [fileHeader] ∧ linesOf "" = [""] := by decide
  have hlines : linesOf (fileText (openingLines p ++ rest)) =
      fileHeader :: "" :: ("package " ++ name) ::
        (gap ++ "" :: (rest.flatMap linesOf ++ [""])) := by
    rw [linesOf_fileText_flatMap (by simp [openingLines])]
    simp [openingLines, hheader, hclause]
  have hskipped : isCode fileHeader = false ∧ isCode "" = false := by decide
  have hcode : isCode ("package " ++ name) = true := by simp [isCode, String.toList_append]
  refine ⟨?_, ?_, ?_⟩ <;> rw [hlines]
  · rfl
  · rcases hgap with rfl | rfl <;> rfl
  · simp [hskipped, hcode]

theorem GoStruct.hasClause_render (hid : IsIdentifier name)
    (hp : p.name = name ∨ p.name = name ++ "\n") (s : GoStruct) : HasClause name (s.render p) := by
  have hclause := hasClause_fileText hid hp
  unfold render lines
  simp only [List.append_assoc]
  exact hclause _

/-- The third line is the clause of the text itself only if no line break is cut off from it. -/
theorem HasClause.clause_eq_iff {content : String} (h : HasClause name content)
    (hid : IsIdentifier name) (htext : text = name ∨ text = name ++ "\n") :
    (linesOf content)[2]? = some ("package " ++ text) ↔ IsIdentifier text := by
  rw [h.clause, Option.some.injEq, String.append_right_inj]
  constructor
  · rintro rfl
    exact hid
  · intro hid'
    exact (htext.resolve_right (hid'.ne_append_break name)).symm

theorem hasClause_of_mem_files {settings : RunSettings} {introspect : Introspect} {ids : List String}
    (hid : IsIdentifier name)
    (hp : settings.package.name = name ∨ settings.package.name = name ++ "\n") :
    ∀ f ∈ (generate settings introspect ids).files, HasClause name f.content := by
  intro f hf
  rw [generate_files, List.mem_append, List.mem_filterMap] at hf
  rcases hf with ⟨k, -, hk⟩ | hf
  · obtain ⟨c, -, rfl⟩ := Option.map_eq_some_iff.1 hk
    exact c.spec.hasClause_render hid hp
  · rcases connection_file_cases settings with hnone | ⟨c, d, hsome⟩
    · rw [hnone] at hf
      cases hf
    · rw [hsome, List.mem_singleton] at hf
      rw [hf, connectionLines]
      simp only [List.append_assoc]
      exact hasClause_fileText hid hp _

/-- A text is accepted as a package if and only if it is an identifier, behind which a line break may
stand; that is, if it is an identifier as a whole, unless there is such a break. The files of an
accepted package, rendered alone or by a run, open with the clause of the identifier. In each of them
the clause is that of the text if and only if the text is an identifier. -/
theorem package_clause_iff (text : String) :
    ((∃ p, Package.ofName text = .ok p) ↔
        ∃ name, IsIdentifier name ∧ (text = name ∨ text = name ++ "\n")) ∧
      (((∃ p, Package.ofName text = .ok p) ↔ IsIdentifier text) ↔
        ∀ name, IsIdentifier name → text ≠ name ++ "\n") ∧
      ∀ p, Package.ofName text = .ok p →
        ∃ name, IsIdentifier name ∧ (text = name ∨ text = name ++ "\n") ∧
          (∀ s : GoStruct, HasClause name (s.render p) ∧
            ((linesOf (s.render p))[2]? = some ("package " ++ text) ↔ IsIdentifier text)) ∧
          ∀ settings introspect ids, settings.package = p →
            ∀ f ∈ (generate settings introspect ids).files, HasClause name f.content ∧
              ((linesOf f.content)[2]? = some ("package " ++ text) ↔ IsIdentifier text) := by
  refine ⟨Package.exists_ofName_iff, ?_, fun p hp => ?_⟩
  · rw [Package.exists_ofName_iff]
    constructor
    · rintro h name hid rfl
      exact (h.1 ⟨name, hid, .inr rfl⟩).ne_append_break name rfl
    · rintro h
      refine ⟨?_, fun hid => ⟨text, hid, .inl rfl⟩⟩
      rintro ⟨name, hid, rfl | hbreak⟩
      · exact hid
      · exact absurd hbreak (h name hid)
  · obtain ⟨name, hid, htext⟩ := Package.exists_ofName_iff.1 ⟨p, hp⟩
    have hname : p.name = name ∨ p.name = name ++ "\n" := by
      rw [Package.name_of_ofName hp]
      exact htext
    refine ⟨name, hid, htext, fun s => ?_, fun settings introspect ids hsettings f hf => ?_⟩
    · have hclause := s.hasClause_render hid hname
      exact ⟨hclause, hclause.clause_eq_iff hid htext⟩
    · have hclause := hasClause_of_mem_files hid (hsettings ▸ hname) f hf
      exact ⟨hclause, hclause.clause_eq_iff hid htext⟩

/-- The struct of a table of tags. -/
def tagStruct : GoStruct where
  name := "Tag"
  tableName := "tags"
  fields := [{ name := "ID", type := "int", tag := "" }]

theorem isIdentifier_models : IsIdentifier "models" :=
  ⟨'m', ['o', 'd', 'e', 'l', 's'], rfl, rfl, List.all_eq_true.1 rfl⟩

/-- A package that is given by an identifier has it in the clause of its files. -/
theorem models_clause : ∃ p, Package.ofName "models" = .ok p ∧
    (linesOf (tagStruct.render p))[2]? = some "package models" ∧
    (linesOf (tagStruct.render p))[3]? = some "" := by
  obtain ⟨p, hp⟩ := (package_clause_iff "models").1.2 ⟨"models", isIdentifier_models, .inl rfl⟩
  obtain ⟨name, -, -, hrender, -⟩ := (package_clause_iff "models").2.2 p hp
  obtain ⟨hclause, hthird⟩ := hrender tagStruct
  exact ⟨p, hp, hthird.2 isIdentifier_models, hclause.gap⟩

/-- A line break behind an identifier is accepted, though the text is no identifier, and the third line
of a file is the clause without it. -/
theorem broken_models_accepted : ∃ p, Package.ofName "models\n" = .ok p ∧
    ¬IsIdentifier "models\n" ∧ (linesOf (tagStruct.render p))[2]? = some "package models" ∧
    "package models" ≠ "package " ++ "models\n" := by
  have hbreak : "models\n" = "models" ++ "\n" := by decide
  have hvalid : isPackageName "models\n" = true := by decide
  have hclause := tagStruct.hasClause_render isIdentifier_models
    (p := ⟨"models\n", hvalid⟩) (.inr hbreak)
  exact ⟨⟨"models\n", hvalid⟩, dif_pos hvalid, fun h => h.ne_append_break "models" hbreak,
    hclause.clause, by decide⟩

end StructGen
