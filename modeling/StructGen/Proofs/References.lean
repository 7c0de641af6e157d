import StructGen.Proofs.Identifiers
import StructGen.Proofs.Report
/-!
# Files refer to structs that are declared

`references_declared`: the model files of a run declare different structs, and the type of a field
that an association gives is, without its marks, the struct that the file of its target declares.
The links of a written model lead to models of the last round, all of which are written, and a
struct name belongs to one model only.
-/
namespace StructGen

variable {settings : RunSettings} {introspect : Introspect} {ids : List String}

/-! ## Bare types -/

/-- A mark of a pointer or slice type. -/
def isTypeMark (c : Char) : Bool :=
  c == '*' || c == '[' || c == ']'

/-- A type without the marks in front of it. -/
def bareType (type : String) : String :=
  String.ofList (type.toList.dropWhile isTypeMark)

theorem not_isTypeMark {c : Char} (h : Naming.isWordChar c = true) : isTypeMark c = false := by
  unfold isTypeMark
  rw [Bool.or_eq_false_iff, Bool.or_eq_false_iff]
  refine ⟨⟨?_, ?_⟩, ?_⟩ <;> rw [beq_eq_false_iff_ne] <;> rintro rfl <;> revert h <;> decide

theorem bareType_append {marks : String} (hm : ∀ c ∈ marks.toList, isTypeMark c = true) (s : String) :
    bareType (marks ++ goName s) = goName s := by
  have hname : (goName s).toList.dropWhile isTypeMark = (goName s).toList := by
    cases hs : (goName s).toList with
    | nil => rfl
    | cons c rest =>
      have hc : Naming.isWordChar c = true := goName_chars s c (by rw [hs]; exact List.mem_cons_self)
      rw [List.dropWhile_cons_of_neg (by simp [not_isTypeMark hc])]
  unfold bareType
  rw [String.toList_append, List.dropWhile_append_of_pos hm, hname, String.ofList_toList]

example : bareType "[]LineItem" = "LineItem" ∧ bareType "*Order" = "Order" := by decide +kernel

/-- Without its marks the type of a link's field is the struct of the target. -/
theorem bareType_fieldType {l : Link} (h : l.targetStruct = goName l.association.target) :
    bareType l.fieldType = goName l.association.target := by
  unfold Link.fieldType
  rw [h]
  split
  · exact bareType_append (by simp [isTypeMark]) _
  · split
    · exact bareType_append (by simp [isTypeMark]) _
    · have hplain := bareType_append (by simp : ∀ c ∈ "".toList, isTypeMark c = true)
        l.association.target
      simpa using hplain

theorem Scope.link_targetStruct (scope : Scope) (model : String) (a : Association) :
    (scope.link model a).targetStruct = goName a.target := by
  unfold Scope.link
  split <;> rfl

theorem Scope.targetStruct_of_mem_links {scope : Scope} {m : Model} {l : Link}
    (hl : l ∈ (scope.resolve m).links) : l.targetStruct = goName l.association.target := by
  rw [Scope.resolve_links] at hl
  obtain ⟨a, -, rfl⟩ := List.mem_map.1 hl
  rw [Scope.link_targetStruct, Scope.link_association]

/-! ## Declarations -/

/-- The file `f` of a run declares the struct `s`. -/
def Declares (settings : RunSettings) (introspect : Introspect) (ids : List String)
    (f : GeneratedFile) (s : String) : Prop :=
  ∃ k c, Writes settings introspect ids f k c ∧ c.spec.name = s

theorem Writes.struct_name {f : GeneratedFile} {k : String} {c : Conversion}
    (h : Writes settings introspect ids f k c) : c.spec.name = goName k := by
  obtain ⟨m, columns, -, rfl, hspec, -, -⟩ := conversion_spec h.converted
  rw [hspec]
  rfl

/-- Models that are converted have different struct names. -/
theorem eq_of_goName_eq {k n : String} (hk : k ∈ (secondPass introspect ids).conversions.keys)
    (hn : n ∈ (secondPass introspect ids).conversions.keys) (h : goName k = goName n) : k = n := by
  obtain ⟨m, hm⟩ := Keyed.mem_keys.1 (converted_iff.1 hk).1
  obtain ⟨t, ht⟩ := Keyed.mem_keys.1 (converted_iff.1 hn).1
  obtain ⟨rfl, hholder⟩ := mem_arenaOf.1 hm
  obtain ⟨rfl, hholder'⟩ := mem_arenaOf.1 ht
  rw [h, hholder'] at hholder
  rw [Option.some.inj hholder]

theorem Declares.unique {f g : GeneratedFile} {s : String} (hf : Declares settings introspect ids f s)
    (hg : Declares settings introspect ids g s) : f = g := by
  obtain ⟨k, c, hw, rfl⟩ := hf
  obtain ⟨n, d, hw', hs⟩ := hg
  rw [hw'.struct_name, hw.struct_name] at hs
  obtain rfl := eq_of_goName_eq (Keyed.keys_of_mem hw'.converted) (Keyed.keys_of_mem hw.converted) hs
  rw [hw.shows, hw'.shows,
    Keyed.eq_of_mem (nodup_conversions introspect ids) hw.converted hw'.converted]

/-- The links of a written model lead to models that are written too. -/
theorem target_written {f : GeneratedFile} {k : String} {c : Conversion}
    (h : Writes settings introspect ids f k c) {l : Link} (hl : l ∈ c.resolution.links) :
    ∃ g d, Writes settings introspect ids g l.association.target d := by
  obtain ⟨m, columns, -, -, -, -, hres⟩ := conversion_spec h.converted
  rw [hres, Scope.resolve_links] at hl
  obtain ⟨a, ha, rfl⟩ := List.mem_map.1 hl
  rw [Scope.link_association]
  have htarget := (Model.mem_emitted ha).2
  rw [finalScope, convertedModels, ← keys_conversions] at htarget
  obtain ⟨d, hd⟩ := Keyed.mem_keys.1 htarget
  exact ⟨_, d, writes_of_converted hd⟩

/-- Model files declare different structs, and the type of an association's field is, but for its
marks, the struct that one of them declares: that of the association's target. -/
theorem references_declared (settings : RunSettings) (introspect : Introspect) (ids : List String) :
    (generate settings introspect ids).files.Pairwise
        (fun f g => ∀ s, Declares settings introspect ids f s → ¬Declares settings introspect ids g s) ∧
      ∀ f ∈ (generate settings introspect ids).files, ∀ k, f.model = some k →
        ∃ c m, Writes settings introspect ids f k c ∧ (k, m) ∈ convertedModels introspect ids ∧
          c.spec.fields.drop m.columns.length = c.resolution.links.map Link.field ∧
          ∀ l ∈ c.resolution.links, ∃ g ∈ (generate settings introspect ids).files,
            g.model = some l.association.target ∧
            ∀ g', Declares settings introspect ids g' (bareType l.field.type) ↔ g' = g := by
  refine ⟨?_, fun f hf k hk => ?_⟩
  · -- Two files that declare one struct are one file, and no file is written twice.
    refine (nodup_files settings introspect ids).pairwise_of_forall_ne fun f _ g _ hne s hf hg => ?_
    exact hne (hf.unique hg)
  · obtain ⟨c, hw⟩ := writes_of_model hf hk
    obtain ⟨m, columns, hm, -, hspec, hlength, hres⟩ := conversion_spec hw.converted
    refine ⟨c, m, hw, hm, ?_, fun l hl => ?_⟩
    · rw [hspec, Model.struct, ← hlength, List.drop_left]
    · obtain ⟨g, d, hg⟩ := target_written hw hl
      have htarget : l.targetStruct = goName l.association.target := by
        rw [hres, Scope.resolve_links] at hl
        obtain ⟨a, -, rfl⟩ := List.mem_map.1 hl
        rw [Scope.link_targetStruct, Scope.link_association]
      have hdeclares : Declares settings introspect ids g (bareType l.field.type) := by
        refine ⟨_, d, hg, ?_⟩
        rw [hg.struct_name]
        exact (bareType_fieldType htarget).symm
      refine ⟨g, hg.written, ?_, fun g' => ⟨fun hg' => hg'.unique hdeclares, ?_⟩⟩
      · rw [hg.shows]
        rfl
      · rintro rfl
        exact hdeclares

end StructGen
