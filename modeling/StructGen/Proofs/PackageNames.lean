import StructGen.Proofs.Declarations
import StructGen.Proofs.References
import StructGen.Proofs.Rerun
import StructGen.Proofs.Stems
/-!
# What a package declares

`packageNames_nodup_iff`: the files of a run declare the struct of each converted model, and the
handle of the database if there is a connection file. The structs differ, but one of them may be
called like the handle, which the check of struct names does not know: that of the words `d` and
`b`.
-/
namespace StructGen

open Naming

/-! ## Names that are exported as the handle -/

/-- To export a word changes no more than case. -/
theorem toLower_exportedWord (w : List Char) :
    (exportedWord w).map Char.toLower = w.map Char.toLower := by
  unfold exportedWord
  simp only []
  split
  · simp
  · cases w <;> simp

theorem flatten_lowerWords (s : String) :
    ((lowerWords s).flatMap exportedWord).map Char.toLower = (lowerWords s).flatten := by
  rw [List.map_flatMap, List.flatten_eq_flatMap]
  refine List.flatMap_congr fun w hw => ?_
  rw [toLower_exportedWord, toLower_of_mem_lowerWords hw, id]

/-- Words that are not empty and hold two characters in all are one word or two. -/
theorem eq_of_flatten_eq_pair {α : Type} {ws : List (List α)} (hws : ∀ w ∈ ws, w ≠ []) {a b : α}
    (h : ws.flatten = [a, b]) : ws = [[a, b]] ∨ ws = [[a], [b]] := by
  match ws with
  | [] => cases h
  | [w] => exact .inl (by simpa using h)
  | u :: v :: rest =>
    obtain ⟨x, u', rfl⟩ := List.exists_cons_of_ne_nil (hws u (by simp))
    obtain ⟨y, v', rfl⟩ := List.exists_cons_of_ne_nil (hws v (by simp))
    have hnil : u' = [] ∧ v' = [] ∧ rest.flatten = [] := by
      have hlength := congrArg List.length h
      simp only [List.flatten_cons, List.length_append, List.length_cons, List.length_nil]
        at hlength
      refine ⟨?_, ?_, ?_⟩ <;> rw [← List.length_eq_zero_iff] <;> omega
    obtain ⟨rfl, rfl, hrest⟩ := hnil
    have hend : rest = [] := by
      rw [List.eq_nil_iff_forall_not_mem]
      exact fun w hw => hws w (by simp [hw]) (List.flatten_eq_nil_iff.1 hrest w hw)
    rw [hend] at h ⊢
    exact .inr (by simpa using h)

/-- The models whose struct is called like the handle of the database. -/
theorem goName_eq_DB {s : String} : goName s = "DB" ↔ underscore s = "d_b" := by
  constructor
  · intro h
    have hcapitals : (lowerWords s).flatMap exportedWord = ['D', 'B'] := by
      rw [goName_eq] at h
      split at h
      · exact absurd h (by decide)
      · next c rest hname =>
        have hchars := congrArg String.toList h
        rw [String.toList_ofList] at hchars
        split at hchars
        · cases hchars
        · rw [hname]
          exact hchars
    have hflat := flatten_lowerWords s
    rw [hcapitals] at hflat
    rcases eq_of_flatten_eq_pair (fun w => ne_nil_of_mem_lowerWords) hflat.symm with hws | hws
    · rw [hws] at hcapitals
      exact absurd hcapitals (by decide)
    · rw [underscore_eq, hws]
      decide
  · intro h
    have hname : goName "D_B" = "DB" := by decide +kernel
    rw [← hname]
    exact goName_eq_of_underscore (h.trans (by decide +kernel))

variable {settings : RunSettings} {introspect : Introspect} {ids : List String}

/-! ## The files of a run -/

/-- The file of a conversion declares the struct of its model. -/
theorem declaredNames_conversion {k : String} {c : Conversion}
    (hc : (k, c) ∈ (secondPass introspect ids).conversions) :
    declaredNames (c.spec.render settings.package) = [goName k] := by
  obtain ⟨m, hm, hconv⟩ := mem_conversions.1 hc
  obtain ⟨columns, -, hspec, hres⟩ := convertModel_eq_ok.1 hconv
  have hsynth := synthesize_of_convertModel hconv
  have hlinks : ∀ l ∈ c.resolution.links, ∃ target, l.targetStruct = goName target := by
    intro l hl
    rw [hres] at hl
    exact ⟨_, Scope.targetStruct_of_mem_links hl⟩
  have hname : c.spec.name = goName k := by
    rw [hspec, ← (holder_of_converted hm).1]
    rfl
  rw [declaredNames_render, hname]
  · rw [hname]
    exact goName_chars k
  · exact fitsLine_of_synthesize hsynth hlinks

/-- What the connection adds to the files of a run: nothing, or the connection file. -/
theorem connection_file_cases (settings : RunSettings) : (connectionPart settings).files = [] ∨
    ∃ (c : Connection) (d : Dialect), (connectionPart settings).files = [{
      path := settings.layout.connectionPath
      content := fileText (connectionLines d c.dsn c.driverPackage settings.package) }] := by
  unfold connectionPart
  cases settings.connection with
  | none => exact .inl rfl
  | some c =>
    cases hd : Dialect.ofDriver c.driverName with
    | error fault =>
      left
      simp [Connection.render, hd, bind, Except.bind]
    | ok d =>
      refine .inr ⟨c, d, ?_⟩
      simp [Connection.render, hd, bind, Except.bind, pure, Except.pure]

theorem declaredNames_connectionPart (settings : RunSettings) :
    (connectionPart settings).files.flatMap (fun f => declaredNames f.content) =
      if (connectionPart settings).files = [] then [] else ["DB"] := by
  rcases connection_file_cases settings with h | ⟨c, d, h⟩
  · simp [h]
  · simp [h, declaredNames_connection]

/-- The names that the files of a run declare together. -/
def packageNames (settings : RunSettings) (introspect : Introspect) (ids : List String) :
    List String :=
  (generate settings introspect ids).files.flatMap fun f => declaredNames f.content

theorem packageNames_eq (settings : RunSettings) (introspect : Introspect) (ids : List String) :
    packageNames settings introspect ids =
      (generate settings introspect ids).converted.map goName ++
        if (connectionPart settings).files = [] then [] else ["DB"] := by
  have hmodels : ∀ k ∈ (generate settings introspect ids).converted,
      ((((secondPass introspect ids).conversions.get? k).map (·.file settings k)).toList.flatMap
        fun f => declaredNames f.content) = [goName k] := by
    intro k hk
    obtain ⟨c, hc⟩ := Keyed.mem_keys.1 ((converted_perm settings introspect ids).mem_iff.1 hk)
    rw [(Keyed.get?_eq_some (nodup_conversions introspect ids)).2 hc]
    simpa [Conversion.file] using declaredNames_conversion hc
  rw [packageNames, generate_files_converted, List.flatMap_append, declaredNames_connectionPart,
    List.filterMap_eq_flatMap_toList, List.flatMap_assoc, List.flatMap_congr hmodels,
    ← List.map_eq_flatMap]

/-- Converted models have different structs. -/
theorem nodup_structs (settings : RunSettings) (introspect : Introspect) (ids : List String) :
    ((generate settings introspect ids).converted.map goName).Nodup := by
  refine (nodup_converted settings introspect ids).map_on fun k hk n hn => ?_
  rw [(converted_perm settings introspect ids).mem_iff] at hk hn
  exact eq_of_goName_eq hk hn

/-- The files of a run declare the struct of each converted model, and the handle if there is a
connection file. They declare no name twice if and only if then no struct is called like the
handle. -/
theorem packageNames_nodup_iff (settings : RunSettings) (introspect : Introspect)
    (ids : List String) :
    packageNames settings introspect ids =
        (generate settings introspect ids).converted.map goName ++
          (if (connectionPart settings).files = [] then [] else ["DB"]) ∧
      ((packageNames settings introspect ids).Nodup ↔
        (connectionPart settings).files = [] ∨
          ∀ k ∈ (generate settings introspect ids).converted, underscore k ≠ "d_b") := by
  refine ⟨packageNames_eq settings introspect ids, ?_⟩
  rw [packageNames_eq]
  have hstructs := nodup_structs settings introspect ids
  split
  · next hnone => simp [hstructs, hnone]
  · next hsome => simp [List.nodup_append, hstructs, hsome, goName_eq_DB]

/-- A table with a numbered row. -/
def numberedTable (name tableName : String) : Model where
  name
  tableName
  columns := [{ name := "id", sourceType := "integer", isPrimaryKey := true }]

/-- A run that also connects to a database. -/
def connectedSettings : RunSettings where
  package := usualSettings.package
  connection := some { driverName := "postgres", dsn := "host=localhost"
                       driverPackage := "github.com/lib/pq" }

/-- The struct of the model `D_B` is called like the handle. -/
theorem handle_declared_twice :
    packageNames connectedSettings (fun _ => .ok (numberedTable "D_B" "databases")) ["D_B"] =
        ["DB", "DB"] ∧
      ¬(packageNames connectedSettings (fun _ => .ok (numberedTable "D_B" "databases"))
        ["D_B"]).Nodup := by
  rw [packageNames_eq]
  decide +kernel

end StructGen
