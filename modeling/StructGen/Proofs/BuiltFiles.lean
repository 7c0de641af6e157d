import StructGen.Proofs.FilePaths
/-!
# Files that are built

A build of a package leaves out the files of its tests, which are told by their names
(`IsTestFile`). In the usual layout a model's file is named like one of a test if and only if the last
word of the model's name is `test` (`types_built_iff`). Nothing asks this of a model, so that a struct
can be left out of its package while the files of other models refer to it.
-/
namespace StructGen

open Naming

/-! ## Names of test files -/

/-- A build takes the file for one of tests. -/
def IsTestFile (path : String) : Prop :=
  "_test.go".toList <:+ path.toList

instance (path : String) : Decidable (IsTestFile path) :=
  inferInstanceAs (Decidable (_ <:+ _))

/-- The last word of a name in lower case; a name without words has an empty one. -/
def lastWord (s : String) : List Char :=
  (lowerWords s).getLast?.getD []

theorem not_underscore_of_mem_lastWord {s : String} {c : Char} (hc : c ∈ lastWord s) :
    (c != '_') = true := by
  unfold lastWord at hc
  cases hlast : (lowerWords s).getLast? with
  | none => simp [hlast] at hc
  | some w =>
    rw [hlast, Option.getD_some] at hc
    have hw := List.mem_of_getLast? hlast
    rw [bne, not_underscore_of_isWordChar (isWordChar_of_mem_lowerWords hw c hc)]
    rfl

/-- Behind an underscore, words that are joined by underscores end in an underscore and the last
word. -/
theorem intercalate_ends (ws : List (List Char)) :
    ∃ front, '_' :: ['_'].intercalate ws = front ++ '_' :: ws.getLast?.getD [] := by
  induction ws with
  | nil => exact ⟨[], by simp⟩
  | cons w rest ih =>
    cases rest with
    | nil => exact ⟨[], by simp⟩
    | cons v vs =>
      obtain ⟨front, hfront⟩ := ih
      refine ⟨'_' :: w ++ front, ?_⟩
      rw [List.intercalate_cons_cons, List.getLast?_cons_cons, List.append_assoc, List.append_assoc,
        ← hfront]
      rfl

theorem eq_of_append_eq {w v front back : List Char} (hw : ∀ c ∈ w, (c != '_') = true)
    (hv : ∀ c ∈ v, (c != '_') = true) (h : front ++ '_' :: w = back ++ '_' :: v) : w = v := by
  have hlast := congrArg (fun l : List Char => l.reverse.takeWhile (· != '_')) h
  have hstop : ∀ s : List Char, (∀ c ∈ s, (c != '_') = true) → ∀ front : List Char,
      (front ++ '_' :: s).reverse.takeWhile (· != '_') = s.reverse := by
    intro s hs front
    rw [List.reverse_append, List.reverse_cons, List.append_assoc, List.singleton_append]
    exact Text.takeWhile_stop (fun c hc => hs c (List.mem_reverse.1 hc)) (by decide)
  rwa [hstop w hw, hstop v hv, List.reverse_inj] at hlast

/-- With a prefix that ends in an underscore, a model's file is named like one of a test if and only if
the last word of the model's name is `test`. -/
theorem Layout.isTestFile_modelPath {l : Layout} {front : String} (h : l.stem = front ++ "_")
    (s : String) : IsTestFile (l.modelPath s) ↔ lastWord s = "test".toList := by
  obtain ⟨words, hwords⟩ := intercalate_ends (lowerWords s)
  rw [← lastWord] at hwords
  have hpath : (l.modelPath s).toList =
      ((l.directory ++ "/" ++ front).toList ++ words ++ '_' :: lastWord s) ++ ".go".toList := by
    rw [List.append_assoc _ words, ← hwords, modelPath, h, underscore_eq]
    simp [String.toList_append]
  have hending : "_test.go".toList = '_' :: "test".toList ++ ".go".toList := by decide
  unfold IsTestFile
  rw [hpath, hending]
  constructor
  · rintro ⟨rest, hrest⟩
    rw [← List.append_assoc, List.append_left_inj] at hrest
    have htest : "test".toList.all (· != '_') = true := by decide
    exact (eq_of_append_eq (List.all_eq_true.1 htest) (fun c => not_underscore_of_mem_lastWord)
      hrest).symm
  · intro hlast
    refine ⟨(l.directory ++ "/" ++ front).toList ++ words, ?_⟩
    rw [hlast, List.append_assoc _ _ ".go".toList]

/-- The prefix of the usual layout ends in an underscore. -/
theorem Layout.isTestFile_usual (s : String) :
    IsTestFile (({} : Layout).modelPath s) ↔ lastWord s = "test".toList := by
  have hstem : ({} : Layout).stem = "gor" ++ "_" := by decide
  exact isTestFile_modelPath hstem s

/-! ## Runs -/

/-- The files of a run that a build of their package takes. -/
def RunResult.built (r : RunResult) : List GeneratedFile :=
  r.files.filter fun f => ¬IsTestFile f.path

theorem RunResult.mem_built {r : RunResult} {f : GeneratedFile} :
    f ∈ r.built ↔ f ∈ r.files ∧ ¬IsTestFile f.path := by
  simp [built]

variable {settings : RunSettings} {introspect : Introspect} {ids : List String}

theorem Writes.isTestFile_iff {f : GeneratedFile} {k : String} {c : Conversion}
    (h : Writes settings introspect ids f k c) (hlayout : settings.layout = {}) :
    IsTestFile f.path ↔ lastWord k = "test".toList := by
  rw [h.shows, ← Layout.isTestFile_usual, ← hlayout]
  rfl

theorem Writes.mem_built_iff {f : GeneratedFile} {k : String} {c : Conversion}
    (h : Writes settings introspect ids f k c) (hlayout : settings.layout = {}) :
    f ∈ (generate settings introspect ids).built ↔ lastWord k ≠ "test".toList := by
  rw [RunResult.mem_built, h.isTestFile_iff hlayout]
  exact and_iff_right h.written

theorem connection_file_built (hlayout : settings.layout = {}) {f : GeneratedFile}
    (h : f ∈ (connectionPart settings).files) : ¬IsTestFile f.path := by
  rw [path_of_connection_file h, hlayout]
  decide

/-- All files of a run are built if and only if the name of no converted model ends in the word
`test`. -/
theorem built_eq_files_iff (hlayout : settings.layout = {}) :
    (generate settings introspect ids).built = (generate settings introspect ids).files ↔
      ∀ k ∈ (generate settings introspect ids).converted, lastWord k ≠ "test".toList := by
  have hall : (generate settings introspect ids).built = (generate settings introspect ids).files ↔
      ∀ f ∈ (generate settings introspect ids).files, ¬IsTestFile f.path := by
    simp [RunResult.built]
  rw [hall]
  constructor
  · intro hfiles k hk
    obtain ⟨c, hc⟩ := Keyed.mem_keys.1 ((converted_perm settings introspect ids).mem_iff.1 hk)
    have hw : Writes settings introspect ids (c.file settings k) k c := writes_of_converted hc
    exact (hw.isTestFile_iff hlayout).not.1 (hfiles _ hw.written)
  · intro hmodels f hf
    rcases file_cases hf with ⟨k, c, hw⟩ | hconnection
    · have hk := Keyed.keys_of_mem hw.converted
      rw [← (converted_perm settings introspect ids).mem_iff] at hk
      exact (hw.isTestFile_iff hlayout).not.2 (hmodels k hk)
    · exact connection_file_built hlayout hconnection

/-- The struct of a link's target is declared by a file that is built if and only if the name of the
target does not end in the word `test`. -/
theorem Writes.declared_iff {f : GeneratedFile} {k : String} {c : Conversion}
    (h : Writes settings introspect ids f k c) (hlayout : settings.layout = {}) {l : Link}
    (hl : l ∈ c.resolution.links) :
    (∃ g ∈ (generate settings introspect ids).built,
        Declares settings introspect ids g (bareType l.field.type)) ↔
      lastWord l.association.target ≠ "test".toList := by
  obtain ⟨g, d, hg⟩ := target_written h hl
  obtain ⟨m, columns, -, -, -, -, hres⟩ := conversion_spec h.converted
  have htarget : bareType l.field.type = goName l.association.target :=
    bareType_fieldType (Scope.targetStruct_of_mem_links (hres ▸ hl))
  have hdeclares : Declares settings introspect ids g (bareType l.field.type) :=
    ⟨_, d, hg, by rw [hg.struct_name, htarget]⟩
  rw [← hg.mem_built_iff hlayout]
  constructor
  · rintro ⟨g', hbuilt, hg'⟩
    rwa [hg'.unique hdeclares] at hbuilt
  · exact fun hbuilt => ⟨g, hbuilt, hdeclares⟩

/-- In the usual layout a model's file is named like one of a test if and only if the last word of the
model's name is `test`. So a run has all its files built if and only if no converted model has such a
name, and a file that is built refers to a struct that is declared with it if and only if the target
has no such name. -/
theorem types_built_iff (settings : RunSettings) (introspect : Introspect) (ids : List String)
    (hlayout : settings.layout = {}) :
    (∀ k, IsTestFile (settings.layout.modelPath k) ↔ lastWord k = "test".toList) ∧
      ((generate settings introspect ids).built = (generate settings introspect ids).files ↔
        ∀ k ∈ (generate settings introspect ids).converted, lastWord k ≠ "test".toList) ∧
      ∀ f ∈ (generate settings introspect ids).built, ∀ k, f.model = some k →
        ∃ c, Writes settings introspect ids f k c ∧ ∀ l ∈ c.resolution.links,
          ((∃ g ∈ (generate settings introspect ids).built,
              Declares settings introspect ids g (bareType l.field.type)) ↔
            lastWord l.association.target ≠ "test".toList) := by
  refine ⟨fun k => ?_, built_eq_files_iff hlayout, fun f hf k hk => ?_⟩
  · rw [hlayout]
    exact Layout.isTestFile_usual k
  · obtain ⟨c, hw⟩ := writes_of_model (RunResult.mem_built.1 hf).1 hk
    exact ⟨c, hw, fun l hl => hw.declared_iff hlayout hl⟩

/-- Samples, each of which belongs to an owner of the given model. -/
def samplesOf (owner : String) : Introspect := fun id =>
  if id = owner then .ok (numberedTable owner "owners")
  else .ok { numberedTable "Sample" "samples" with
    associations := [
      { name := "owner", kind := .belongsTo, target := owner, foreignKey := "owner_id" }] }

/-- The file of the samples refers to a file that is built. -/
theorem laboratory_built :
    usualSettings.layout = {} ∧
      (generate usualSettings (samplesOf "Laboratory") ["Sample", "Laboratory"]).built.map (·.path) =
        ["models/gor_sample.go", "models/gor_laboratory.go"] ∧
      ∃ f ∈ (generate usualSettings (samplesOf "Laboratory") ["Sample", "Laboratory"]).built,
        ∃ c, Writes usualSettings (samplesOf "Laboratory") ["Sample", "Laboratory"] f "Sample" c ∧
          ∃ l ∈ c.resolution.links, l.association.target = "Laboratory" ∧
            ∃ g ∈ (generate usualSettings (samplesOf "Laboratory") ["Sample", "Laboratory"]).built,
              Declares usualSettings (samplesOf "Laboratory") ["Sample", "Laboratory"] g
                (bareType l.field.type) := by
  obtain ⟨-, -, hbuilt⟩ := types_built_iff usualSettings (samplesOf "Laboratory")
    ["Sample", "Laboratory"] rfl
  have hpaths : (generate usualSettings (samplesOf "Laboratory")
      ["Sample", "Laboratory"]).built.map (·.path) =
        ["models/gor_sample.go", "models/gor_laboratory.go"] := by decide +kernel
  have hmodel : some "Sample" ∈ (generate usualSettings (samplesOf "Laboratory")
      ["Sample", "Laboratory"]).built.map (·.model) := by decide +kernel
  obtain ⟨f, hf, hk⟩ := List.mem_map.1 hmodel
  obtain ⟨c, hw, hlinks⟩ := hbuilt f hf "Sample" hk
  have htargets : ∀ e ∈ (secondPass (samplesOf "Laboratory")
      ["Sample", "Laboratory"]).conversions, e.1 = "Sample" →
        e.2.resolution.links.map (·.association.target) = ["Laboratory"] := by decide +kernel
  have htarget := htargets _ hw.converted rfl
  obtain ⟨l, hl, hlaboratory⟩ := List.mem_map.1 (htarget ▸ List.mem_singleton_self _)
  have hword : lastWord l.association.target ≠ "test".toList := by
    rw [hlaboratory]
    decide +kernel
  exact ⟨rfl, hpaths, f, hf, c, hw, l, hl, hlaboratory, (hlinks l hl).2 hword⟩

/-- The file of lab tests is taken for one of tests, while the file of the samples, which is built, has
a link to their struct. -/
theorem labTest_left_out :
    (generate usualSettings (samplesOf "LabTest") ["Sample", "LabTest"]).files.map (·.path) =
        ["models/gor_sample.go", "models/gor_lab_test.go"] ∧
      IsTestFile "models/gor_lab_test.go" ∧
      (generate usualSettings (samplesOf "LabTest") ["Sample", "LabTest"]).built.map (·.path) =
        ["models/gor_sample.go"] ∧
      (secondPass (samplesOf "LabTest") ["Sample", "LabTest"]).conversions.map
          (fun e => (e.1, e.2.resolution.links.map (·.targetStruct))) =
        [("Sample", ["LabTest"]), ("LabTest", [])] ∧
      ∀ g ∈ (generate usualSettings (samplesOf "LabTest") ["Sample", "LabTest"]).built,
        ¬Declares usualSettings (samplesOf "LabTest") ["Sample", "LabTest"] g "LabTest" := by
  refine ⟨by decide +kernel, by decide, by decide +kernel, by decide +kernel, fun g hg => ?_⟩
  rintro ⟨k, c, hw, hstruct⟩
  have hmodels : (secondPass (samplesOf "LabTest") ["Sample", "LabTest"]).conversions.keys =
      ["Sample", "LabTest"] := by decide +kernel
  have hk := Keyed.keys_of_mem hw.converted
  rw [hmodels] at hk
  rw [hw.struct_name] at hstruct
  have hbuilt := (hw.mem_built_iff rfl).1 hg
  have hnames : goName "Sample" ≠ "LabTest" ∧ lastWord "LabTest" = "test".toList := by
    decide +kernel
  simp only [List.mem_cons, List.not_mem_nil, or_false] at hk
  rcases hk with rfl | rfl
  · exact hnames.1 hstruct
  · exact hbuilt hnames.2

end StructGen
