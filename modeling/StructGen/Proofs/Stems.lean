import StructGen.Proofs.Identifiers
/-!
# File stems

`goName_eq_of_underscore`: names with one underscored form have one exported form. Both forms are
read off the words of a name in lower case, and the underscored form gives these words back. So
structs with different names go to files with different stems.
-/
namespace StructGen

open Naming

/-! ## Words -/

namespace Naming

theorem ne_nil_of_mem_chunkWords {s w : List Char} (hw : w ∈ chunkWords s) : w ≠ [] := by
  induction s using chunkWords.induct with
  | case1 => simp [chunkWords] at hw
  | case2 c s ih =>
    rw [chunkWords] at hw
    rcases List.mem_cons.1 hw with rfl | hw
    · exact List.cons_ne_nil _ _
    · exact ih hw

theorem ne_nil_of_mem_words {s w : List Char} (hw : w ∈ words s) : w ≠ [] := by
  obtain ⟨run, -, hw⟩ := List.mem_flatMap.1 hw
  exact ne_nil_of_mem_chunkWords hw

/-- The words of an identifier in lower case. -/
def lowerWords (s : String) : List (List Char) :=
  (words s.toList).map (·.map Char.toLower)

theorem ne_nil_of_mem_lowerWords {s : String} {w : List Char} (hw : w ∈ lowerWords s) : w ≠ [] := by
  obtain ⟨v, hv, rfl⟩ := List.mem_map.1 hw
  simpa using ne_nil_of_mem_words hv

theorem isWordChar_of_mem_lowerWords {s : String} {w : List Char} (hw : w ∈ lowerWords s) :
    ∀ c ∈ w, isWordChar c = true := by
  obtain ⟨v, hv, rfl⟩ := List.mem_map.1 hw
  intro c hc
  obtain ⟨b, hb, rfl⟩ := List.mem_map.1 hc
  exact isWordChar_toLower (isWordChar_of_mem_words hv b hb)

theorem toLower_of_mem_lowerWords {s : String} {w : List Char} (hw : w ∈ lowerWords s) :
    w.map Char.toLower = w := by
  obtain ⟨v, -, rfl⟩ := List.mem_map.1 hw
  simp

end Naming

/-! ## Both forms of a name -/

theorem underscore_eq (s : String) :
    underscore s = String.ofList (['_'].intercalate (lowerWords s)) :=
  rfl

/-- A word is exported alike in whatever case it is written. -/
theorem exportedWord_lower (w : List Char) :
    exportedWord (w.map Char.toLower) = exportedWord w := by
  have hupper : (w.map Char.toLower).map Char.toUpper = w.map Char.toUpper := by simp
  unfold exportedWord
  simp only [hupper]
  split
  · rfl
  · cases w <;> simp

theorem goName_eq (s : String) : goName s =
    match (lowerWords s).flatMap exportedWord with
    | [] => "X"
    | c :: rest => String.ofList (if c.isDigit then 'X' :: c :: rest else c :: rest) := by
  have hwords : (lowerWords s).flatMap exportedWord = (words s.toList).flatMap exportedWord := by
    rw [lowerWords, List.flatMap_map]
    exact List.flatMap_congr fun w _ => exportedWord_lower w
  rw [hwords, goName]
  cases (words s.toList).flatMap exportedWord <;> rfl

/-- Words without underscores are what is between the underscores. -/
theorem eq_of_intercalate_eq {ws vs : List (List Char)}
    (hws : ∀ w ∈ ws, w ≠ [] ∧ ∀ c ∈ w, (c == '_') = false)
    (hvs : ∀ v ∈ vs, v ≠ [] ∧ ∀ c ∈ v, (c == '_') = false)
    (h : ['_'].intercalate ws = ['_'].intercalate vs) : ws = vs := by
  have hruns := congrArg (Text.runs (· == '_')) h
  rwa [Text.runs_intercalate rfl hws, Text.runs_intercalate rfl hvs] at hruns

theorem lowerWords_eq_of_underscore {s t : String} (h : underscore s = underscore t) :
    lowerWords s = lowerWords t := by
  have hword : ∀ s, ∀ w ∈ lowerWords s, w ≠ [] ∧ ∀ c ∈ w, (c == '_') = false := fun s w hw =>
    ⟨ne_nil_of_mem_lowerWords hw,
      fun c hc => not_underscore_of_isWordChar (isWordChar_of_mem_lowerWords hw c hc)⟩
  rw [underscore_eq, underscore_eq, String.ofList_inj] at h
  exact eq_of_intercalate_eq (hword s) (hword t) h

/-- Names with one underscored form have one exported form. -/
theorem goName_eq_of_underscore {s t : String} (h : underscore s = underscore t) :
    goName s = goName t := by
  rw [goName_eq, goName_eq, lowerWords_eq_of_underscore h]

end StructGen
