import StructGen.Proofs.References
import StructGen.Proofs.Stems
/-!
# Exported names

`names_exported`: an exported form starts with a capital, so that it is an exported identifier of
the Go language and none of its keywords, whatever text it is made from. The names that a struct,
its fields and its foreign keys get are such forms, and so are the structs that resolved
associations lead to.
-/
namespace StructGen

open Naming

/-- The words that the Go language keeps for itself. -/
def goKeywords : List String :=
  ["break", "case", "chan", "const", "continue", "default", "defer", "else", "fallthrough", "for",
    "func", "go", "goto", "if", "import", "interface", "map", "package", "range", "return",
    "select", "struct", "switch", "type", "var"]

/-- An exported identifier: a capital and ASCII letters and digits after it, and no keyword. -/
structure IsExported (name : String) : Prop where
  spelled : ∃ c rest, name.toList = c :: rest ∧ c.isUpper = true ∧
    ∀ d ∈ rest, d.isAlphanum = true
  not_keyword : name ∉ goKeywords

theorem isExported_of_spelled {name : String} {c : Char} {rest : List Char}
    (hname : name.toList = c :: rest) (hc : c.isUpper = true)
    (hrest : ∀ d ∈ rest, d.isAlphanum = true) : IsExported name := by
  refine ⟨⟨c, rest, hname, hc, hrest⟩, fun hmem => ?_⟩
  -- All keywords are written in small letters.
  have hsmall : ∀ k ∈ goKeywords, k.toList.head?.all Char.isLower = true := by decide +kernel
  have hhead := hsmall name hmem
  rw [hname, List.head?_cons, Option.all_some] at hhead
  exact Char.not_isLower_of_isUpper hc hhead

/-! ## Exported forms -/

/-- Words in exported form start with a capital or a digit. -/
theorem first_of_exportedWords {ws : List (List Char)}
    (hws : ∀ w ∈ ws, w ≠ [] ∧ ∀ c ∈ w, isWordChar c = true) {c : Char} {rest : List Char}
    (h : ws.flatMap exportedWord = c :: rest) : c.isUpper = true ∨ c.isDigit = true := by
  cases ws with
  | nil => cases h
  | cons w ws =>
    obtain ⟨hne, hword⟩ := hws w List.mem_cons_self
    obtain ⟨d, w, rfl⟩ := List.exists_cons_of_ne_nil hne
    have hfirst : ∃ tail, exportedWord (d :: w) = d.toUpper :: tail := by
      unfold exportedWord
      simp only []
      split
      · exact ⟨_, List.map_cons⟩
      · exact ⟨_, rfl⟩
    obtain ⟨tail, htail⟩ := hfirst
    rw [List.flatMap_cons, htail] at h
    obtain ⟨rfl, -⟩ := List.cons.inj h
    have hd := hword d List.mem_cons_self
    rw [isWordChar_eq, Bool.or_eq_true] at hd
    rcases hd with halpha | hdigit
    · exact .inl (by rwa [Char.isUpper_toUpper_eq_isAlpha])
    · right
      rwa [Char.toUpper_eq_of_not_isLower (not_letter_of_isDigit hdigit).1]

theorem goName_first (s : String) :
    ∃ c rest, (goName s).toList = c :: rest ∧ c.isUpper = true := by
  unfold goName
  simp only []
  split
  · exact ⟨'X', [], by decide, by decide⟩
  · next c rest hname =>
    rw [String.toList_ofList]
    split
    · exact ⟨'X', _, rfl, by decide⟩
    · next hdigit =>
      have hwords : ∀ w ∈ words s.toList, w ≠ [] ∧ ∀ c ∈ w, isWordChar c = true :=
        fun w hw => ⟨ne_nil_of_mem_words hw, isWordChar_of_mem_words hw⟩
      exact ⟨c, rest, hname, (first_of_exportedWords hwords hname).resolve_right hdigit⟩

/-- The exported form of a text is an exported identifier. -/
theorem isExported_goName (s : String) : IsExported (goName s) := by
  obtain ⟨c, rest, hname, hc⟩ := goName_first s
  refine isExported_of_spelled hname hc fun d hd => ?_
  exact goName_chars s d (by rw [hname]; exact List.mem_cons_of_mem c hd)

/-! ## Structs -/

/-- What stands in front of the foreign key in the settings of an association. -/
def Association.keyLabel (a : Association) : String :=
  match a.kind with
  | .manyToMany => "many2many:" ++ a.joinTableText ++ ";joinForeignKey:"
  | _ => "foreignKey:"

theorem Association.joinSettings_settings (a : Association) :
    joinSettings a.settings = a.keyLabel ++ goName a.foreignKey := by
  unfold settings keyLabel joinSettings
  rw [← String.toList_inj]
  cases a.kind <;> simp [String.toList_append]

/-- The type of a link's field is the struct of the link, behind the marks of a slice or pointer. -/
theorem Link.fieldType_eq (l : Link) :
    ∃ marks ∈ ["", "*", "[]"], l.fieldType = marks ++ l.targetStruct := by
  unfold fieldType
  split
  · exact ⟨"[]", by simp, rfl⟩
  · split
    · exact ⟨"*", by simp, rfl⟩
    · exact ⟨"", by simp, by simp⟩

theorem goName_of_mem_fields {m : Model} {links : List Link} {g : GoStruct}
    (h : m.synthesize links = .ok g) {f : GoField} (hf : f ∈ g.fields) :
    ∃ source, f.name = goName source := by
  rcases (Model.mem_fields_iff h).1 hf with ⟨c, -, t, -, hfield⟩ | ⟨l, -, rfl⟩
  · obtain ⟨settings, -, rfl⟩ := Column.field_eq_ok.1 hfield
    exact ⟨c.name, rfl⟩
  · exact ⟨l.association.name, rfl⟩

/-- Every exported form is an exported identifier. So are the names of a struct, of its fields and
of the foreign keys in the tags of its associations. The type of an association is the struct of its
link, behind the marks of a slice or pointer, and that of a resolved link is an exported identifier,
too. -/
theorem names_exported :
    (∀ s, IsExported (goName s)) ∧
      ∀ (m : Model) (links : List Link) (g : GoStruct), m.synthesize links = .ok g →
        IsExported g.name ∧ (∀ f ∈ g.fields, IsExported f.name) ∧
          ∀ l ∈ links, l.field ∈ g.fields ∧
            (∃ key, IsExported key ∧ l.field.tag = structTag
              [("gorm", l.association.keyLabel ++ key),
                ("json", l.association.name ++ ",omitempty")]) ∧
            (∃ marks ∈ ["", "*", "[]"], l.field.type = marks ++ l.targetStruct) ∧
            ∀ (scope : Scope) (n : Model), l ∈ (scope.resolve n).links →
              IsExported l.targetStruct := by
  refine ⟨isExported_goName, fun m links g h => ⟨?_, fun f hf => ?_, fun l hl => ⟨?_, ?_, ?_, ?_⟩⟩⟩
  · obtain ⟨columns, rfl, -⟩ := Model.struct_of_synthesize h
    exact isExported_goName m.name
  · obtain ⟨source, hsource⟩ := goName_of_mem_fields h hf
    exact hsource ▸ isExported_goName source
  · obtain ⟨columns, rfl, -⟩ := Model.struct_of_synthesize h
    exact List.mem_append_right _ (List.mem_map_of_mem hl)
  · refine ⟨goName l.association.foreignKey, isExported_goName _, ?_⟩
    rw [← Association.joinSettings_settings]
    rfl
  · exact l.fieldType_eq
  · intro scope n hlink
    rw [Scope.targetStruct_of_mem_links hlink]
    exact isExported_goName _

def ranges : Association where
  name := "range"
  kind := .hasMany
  target := "map"
  foreignKey := "go"

/-- A model whose names are keywords or start with a digit. -/
def twoFactors : Model where
  name := "2fa"
  tableName := "two_factors"
  columns := [{ name := "id", sourceType := "integer", isPrimaryKey := true },
    { name := "type", sourceType := "string" }]
  associations := [ranges]

/-- A run on two models. -/
def twoFactorScope : Scope where
  requested := ["2fa", "map"]

theorem twoFactors_exported :
    ∃ g l, twoFactors.synthesize [l] = .ok g ∧ l ∈ (twoFactorScope.resolve twoFactors).links ∧
      IsExported g.name ∧ (∀ f ∈ g.fields, IsExported f.name) ∧ IsExported l.targetStruct := by
  obtain ⟨g, hg⟩ : ∃ g, twoFactors.synthesize [twoFactorScope.link "2fa" ranges] = .ok g :=
    Model.exists_struct (by decide +kernel)
  have hlink : twoFactorScope.link "2fa" ranges ∈ (twoFactorScope.resolve twoFactors).links := by
    decide +kernel
  obtain ⟨hname, hfields, hlinks⟩ := names_exported.2 twoFactors _ g hg
  obtain ⟨-, -, -, htarget⟩ := hlinks _ List.mem_cons_self
  exact ⟨g, _, hg, hlink, hname, hfields, htarget _ twoFactors hlink⟩

end StructGen
