import Mathlib
import StructGen.Naming
import StructGen.Proofs.Runs
/-!
# Exported identifiers

`goName_chars`: an exported identifier consists of ASCII letters and digits. The words of a name are
cut from its runs of letters and digits, and capitals and small letters stay letters. (What the library
says of the case of ASCII letters comes with the whole of it only.)
-/
namespace StructGen

open Naming

/-! ## Words -/

namespace Naming

/-- The words of a chunk make it up. -/
theorem chunkWords_flatten (s : List Char) : (chunkWords s).flatten = s := by
  induction s using chunkWords.induct with
  | case1 => simp [chunkWords]
  | case2 c s ih => rw [chunkWords, List.flatten_cons, ih, List.cons_append, nextWord_append]

theorem isWordChar_of_mem_words {s w : List Char} (hw : w ∈ words s) :
    ∀ c ∈ w, isWordChar c = true := by
  intro c hc
  obtain ⟨run, hrun, hw⟩ := List.mem_flatMap.1 hw
  have hmem : c ∈ run := by
    rw [← chunkWords_flatten run]
    exact List.mem_flatten.2 ⟨w, hw, hc⟩
  simpa using Text.not_sep_of_mem_runs hrun c hmem

theorem isWordChar_eq (c : Char) : isWordChar c = (c.isAlpha || c.isDigit) := rfl

theorem not_letter_of_isDigit {c : Char} (h : c.isDigit = true) :
    ¬c.isLower = true ∧ ¬c.isUpper = true := by
  simp only [Char.isDigit, Char.isLower, Char.isUpper, Bool.and_eq_true, decide_eq_true_eq,
    ge_iff_le, UInt32.le_iff_toNat_le] at h ⊢
  simp at h ⊢
  omega

/-- A letter or digit is of one of three classes, and of none of the others. -/
theorem isWordChar_cases {c : Char} (h : isWordChar c = true) :
    (c.isUpper = true ∧ c.isLower = false ∧ c.isDigit = false) ∨
      (c.isUpper = false ∧ c.isLower = true ∧ c.isDigit = false) ∨
      (c.isUpper = false ∧ c.isLower = false ∧ c.isDigit = true) := by
  by_cases hd : c.isDigit = true
  · obtain ⟨hlower, hupper⟩ := not_letter_of_isDigit hd
    simp [hd, hlower, hupper]
  · rw [isWordChar_eq, Char.isAlpha, Bool.or_eq_true, Bool.or_eq_true] at h
    rcases h with (hu | hl) | hd'
    · simp [hu, hd, Char.not_isLower_of_isUpper hu]
    · simp [hl, hd, Char.not_isUpper_of_isLower hl]
    · exact absurd hd' hd

theorem not_underscore_of_isWordChar {c : Char} (h : isWordChar c = true) :
    (c == '_') = false := by
  rw [beq_eq_false_iff_ne]
  rintro rfl
  revert h
  decide

theorem isWordChar_toUpper {c : Char} (h : isWordChar c = true) : isWordChar c.toUpper = true := by
  rw [isWordChar_eq, Bool.or_eq_true] at h ⊢
  rcases h with h | h
  · left
    rwa [Char.isAlpha_toUpper_eq_isAlpha]
  · right
    rwa [Char.toUpper_eq_of_not_isLower (not_letter_of_isDigit h).1]

theorem isWordChar_toLower {c : Char} (h : isWordChar c = true) : isWordChar c.toLower = true := by
  rw [isWordChar_eq, Bool.or_eq_true] at h ⊢
  rcases h with h | h
  · left
    rwa [Char.isAlpha_toLower_eq_isAlpha]
  · right
    rwa [Char.toLower_eq_of_not_isUpper (not_letter_of_isDigit h).2]

end Naming

theorem isWordChar_of_mem_exportedWord {w : List Char} (hw : ∀ c ∈ w, isWordChar c = true) :
    ∀ c ∈ exportedWord w, isWordChar c = true := by
  intro c hc
  unfold exportedWord at hc
  simp only at hc
  split at hc
  · obtain ⟨b, hb, rfl⟩ := List.mem_map.1 hc
    exact isWordChar_toUpper (hw b hb)
  · split at hc
    · cases hc
    · next first rest _ =>
      rcases List.mem_cons.1 hc with rfl | hc
      · exact isWordChar_toUpper (hw first List.mem_cons_self)
      · obtain ⟨b, hb, rfl⟩ := List.mem_map.1 hc
        exact isWordChar_toLower (hw b (List.mem_cons_of_mem _ hb))

/-- An exported identifier consists of letters and digits. -/
theorem goName_chars (s : String) : ∀ c ∈ (goName s).toList, isWordChar c = true := by
  have hname : ∀ c ∈ (words s.toList).flatMap exportedWord, isWordChar c = true := by
    intro c hc
    obtain ⟨w, hw, hc⟩ := List.mem_flatMap.1 hc
    exact isWordChar_of_mem_exportedWord (isWordChar_of_mem_words hw) c hc
  intro c hc
  unfold goName at hc
  simp only at hc
  split at hc
  · obtain rfl : c = 'X' := by simpa using hc
    rfl
  · next d rest hd =>
    rw [String.toList_ofList] at hc
    split at hc
    · rcases List.mem_cons.1 hc with rfl | hc
      · rfl
      · exact hname c hc
    · exact hname c hc

/-! ## Numbers -/

theorem isDigit_of_mem_toString {n : Nat} {c : Char} (hc : c ∈ (toString n).toList) :
    c.isDigit = true := by
  rw [Nat.toString_eq_ofList_toDigits, String.toList_ofList] at hc
  exact Nat.isDigit_of_mem_toDigits (by decide) (by decide) hc

/-- An integer is written with digits and a sign. -/
theorem mem_toString_int {n : Int} {c : Char} (hc : c ∈ (toString n).toList) :
    c.isDigit = true ∨ c = '-' := by
  rw [Int.toString_eq_repr, Int.repr_eq_if] at hc
  split at hc
  · exact .inl (isDigit_of_mem_toString hc)
  · rw [String.toList_append, List.mem_append] at hc
    exact hc.symm.imp isDigit_of_mem_toString List.mem_singleton.1

end StructGen
