import StructGen.Proofs.Paths
import StructGen.Proofs.WordBoundaries
/-!
# Underscored names

`lowerWords_underscore`: the words of an underscored name are the words of the name itself, in lower
case. A word has no letter behind a digit, so that in lower case nothing parts its characters, and
the underscores part the words. So the underscored form is a normal form that a name shares its
exported form with, and it adds letters, digits and underscores to a path and nothing else.
-/
namespace StructGen

open Naming

namespace Naming

/-! ## Words stay words in lower case -/

/-- No letter follows a digit. -/
def DigitsLast : List Char → Prop :=
  List.IsChain fun a b => ¬(a.isDigit = true ∧ b.isAlpha = true)

theorem digitsLast_of_mem_chunkWords {c w : List Char} (hc : ∀ x ∈ c, isWordChar x = true)
    (hw : w ∈ chunkWords c) : DigitsLast w := by
  induction c generalizing w with
  | nil => simp [chunkWords] at hw
  | cons a c ih =>
    cases c with
    | nil =>
      obtain rfl : w = [a] := by simpa [chunkWords, nextWord, spanWord] using hw
      exact .singleton a
    | cons b s =>
      have hrest := fun x hx => hc x (List.mem_cons_of_mem a hx)
      rw [chunkWords_cons_cons (hc a (by simp)) (hc b (by simp))] at hw
      split at hw
      · rcases List.mem_cons.1 hw with rfl | hw
        · exact .singleton a
        · exact ih hrest hw
      · next hparts =>
        rw [chunkWords, List.modifyHead_cons] at hw
        rcases List.mem_cons.1 hw with rfl | hw
        · have hfirst := ih hrest (w := b :: (nextWord b s).1) (by simp [chunkWords])
          exact List.isChain_cons_cons.2 ⟨fun h => hparts (.inl h), hfirst⟩
        · exact ih hrest (by simp [chunkWords, hw])

theorem not_isDigit_of_isAlpha {c : Char} (h : c.isAlpha = true) : c.isDigit = false := by
  rw [← Bool.not_eq_true]
  intro hdigit
  obtain ⟨hlower, hupper⟩ := not_letter_of_isDigit hdigit
  simp [Char.isAlpha, hlower, hupper] at h

theorem isDigit_toLower (c : Char) : c.toLower.isDigit = c.isDigit := by
  by_cases hc : c.isUpper = true
  · have halpha : c.isAlpha = true := by simp [Char.isAlpha, hc]
    have hlower : c.toLower.isAlpha = true := by rwa [Char.isAlpha_toLower_eq_isAlpha]
    rw [not_isDigit_of_isAlpha halpha, not_isDigit_of_isAlpha hlower]
  · rw [Char.toLower_eq_of_not_isUpper hc]

theorem DigitsLast.toLower {w : List Char} (h : DigitsLast w) :
    DigitsLast (w.map Char.toLower) := by
  unfold DigitsLast
  rw [List.isChain_map]
  simp only [isDigit_toLower, Char.isAlpha_toLower_eq_isAlpha]
  exact h

/-- In lower case only a digit in front of a letter would part a word. -/
theorem chunkWords_of_digitsLast {w : List Char} (hne : w ≠ []) (hw : ∀ c ∈ w, isWordChar c = true)
    (hsmall : ∀ c ∈ w, c.isUpper = false) (hlast : DigitsLast w) : chunkWords w = [w] := by
  induction w with
  | nil => exact absurd rfl hne
  | cons a w ih =>
    cases w with
    | nil => simp [chunkWords, nextWord, spanWord]
    | cons b s =>
      obtain ⟨hab, hrest⟩ := List.isChain_cons_cons.1 hlast
      have hparts : ¬Parts a b s.head? := by
        simp [Parts, hsmall a (by simp), hsmall b (by simp), hab]
      rw [chunkWords_cons_cons (hw a (by simp)) (hw b (by simp)), if_neg hparts,
        ih (List.cons_ne_nil b s) (fun c hc => hw c (List.mem_cons_of_mem a hc))
          (fun c hc => hsmall c (List.mem_cons_of_mem a hc)) hrest, List.modifyHead_cons]

theorem not_isUpper_of_mem_lowerWords {s : String} {w : List Char} (hw : w ∈ lowerWords s) :
    ∀ c ∈ w, c.isUpper = false := by
  intro c hc
  rw [← toLower_of_mem_lowerWords hw] at hc
  obtain ⟨b, -, rfl⟩ := List.mem_map.1 hc
  exact Char.isUpper_toLower_eq_false b

theorem chunkWords_of_mem_lowerWords {s : String} {w : List Char} (hw : w ∈ lowerWords s) :
    chunkWords w = [w] := by
  have hlast : DigitsLast w := by
    obtain ⟨v, hv, rfl⟩ := List.mem_map.1 hw
    rw [words_eq_flatMap] at hv
    obtain ⟨c, hc, hv⟩ := List.mem_flatMap.1 hv
    exact (digitsLast_of_mem_chunkWords (isWordChar_of_mem_chunks hc) hv).toLower
  exact chunkWords_of_digitsLast (ne_nil_of_mem_lowerWords hw) (isWordChar_of_mem_lowerWords hw)
    (not_isUpper_of_mem_lowerWords hw) hlast

/-- Chunks are parted by underscores. -/
theorem words_intercalate {cs : List (List Char)}
    (hcs : ∀ c ∈ cs, c ≠ [] ∧ ∀ x ∈ c, isWordChar x = true) :
    words (['_'].intercalate cs) = cs.flatMap chunkWords := by
  have hruns : Text.runs (fun x => !isWordChar x) (['_'].intercalate cs) = cs :=
    Text.runs_intercalate (by decide) fun c hc =>
      ⟨(hcs c hc).1, fun x hx => by simp [(hcs c hc).2 x hx]⟩
  rw [words, hruns]

end Naming

theorem lowerWords_underscore (s : String) : lowerWords (underscore s) = lowerWords s := by
  have hwords : ∀ w ∈ lowerWords s, w ≠ [] ∧ ∀ c ∈ w, isWordChar c = true :=
    fun w hw => ⟨ne_nil_of_mem_lowerWords hw, isWordChar_of_mem_lowerWords hw⟩
  have hsplit : (lowerWords s).flatMap chunkWords = lowerWords s := by
    rw [List.flatMap_congr fun w hw => chunkWords_of_mem_lowerWords hw]
    simp
  rw [lowerWords, underscore_eq, String.toList_ofList, words_intercalate hwords, hsplit]
  exact (List.map_congr_left fun w hw => toLower_of_mem_lowerWords hw).trans (List.map_id _)

/-! ## Stems -/

/-- Pieces of small letters and digits, joined by underscores. -/
def IsStem (s : String) : Prop :=
  ∃ ws : List (List Char), ws ≠ [] ∧
    (∀ w ∈ ws, w ≠ [] ∧ ∀ c ∈ w, c.isLower = true ∨ c.isDigit = true) ∧
    s.toList = ['_'].intercalate ws

theorem small_of_mem_lowerWords {s : String} {w : List Char} (hw : w ∈ lowerWords s) :
    ∀ c ∈ w, c.isLower = true ∨ c.isDigit = true := by
  intro c hc
  rcases isWordChar_cases (isWordChar_of_mem_lowerWords hw c hc) with
    ⟨hu, -, -⟩ | ⟨-, hl, -⟩ | ⟨-, -, hd⟩
  · rw [not_isUpper_of_mem_lowerWords hw c hc] at hu
    cases hu
  · exact .inl hl
  · exact .inr hd

/-- The stem of a name is empty or is written in small letters, digits and single underscores. -/
theorem underscore_shape (s : String) : underscore s = "" ∨ IsStem (underscore s) := by
  by_cases hnone : lowerWords s = []
  · left
    rw [underscore_eq, hnone]
    rfl
  · right
    refine ⟨lowerWords s, hnone, fun w hw => ?_, by rw [underscore_eq, String.toList_ofList]⟩
    exact ⟨ne_nil_of_mem_lowerWords hw, small_of_mem_lowerWords hw⟩

theorem mem_underscore {s : String} {c : Char} (hc : c ∈ (underscore s).toList) :
    c = '_' ∨ c.isLower = true ∨ c.isDigit = true := by
  rw [underscore_eq, String.toList_ofList] at hc
  rcases mem_of_mem_intercalate hc with hc | ⟨w, hw, hc⟩
  · exact .inl (by simpa using hc)
  · exact .inr (small_of_mem_lowerWords hw c hc)

/-! ## What a name adds to a path -/

/-- A character that parts the segments of a path on some system. -/
def isPathSeparator (c : Char) : Bool :=
  c == '/' || c == '\\'

theorem filter_isPathSeparator_underscore (s : String) :
    (underscore s).toList.filter isPathSeparator = [] := by
  rw [List.filter_eq_nil_iff]
  intro c hc hsep
  have hc := mem_underscore hc
  unfold isPathSeparator at hsep
  rw [Bool.or_eq_true, beq_iff_eq, beq_iff_eq] at hsep
  rcases hsep with rfl | rfl <;> revert hc <;> decide

theorem underscore_empty : underscore "" = "" := by
  rw [underscore_eq, lowerWords]
  simp [words, Text.runs]

/-- What does not hold a character is found on one side of it. -/
theorem infix_append_cons {α : Type} {l front back : List α} {x : α} (hx : x ∉ l)
    (h : l <:+: front ++ x :: back) : l <:+: front ∨ l <:+: back := by
  obtain ⟨s, t, h⟩ := h
  rcases List.append_eq_append_iff.1 h with ⟨u, hfront, -⟩ | ⟨u, hsl, hback⟩
  · exact .inl ⟨s, u, hfront.symm⟩
  · cases u with
    | nil => exact .inl ⟨s, [], by simpa using hsl⟩
    | cons y u =>
      obtain ⟨rfl, rfl⟩ := List.cons.inj hback
      rcases List.append_eq_append_iff.1 hsl with ⟨v, -, hl⟩ | ⟨v, -, hl⟩
      · exact absurd (hl ▸ List.mem_append_right v List.mem_cons_self) hx
      · cases v with
        | nil =>
          rw [List.nil_append] at hl
          exact absurd (hl ▸ List.mem_cons_self) hx
        | cons z v =>
          obtain ⟨rfl, rfl⟩ := List.cons.inj hl
          exact .inr ⟨v, t, rfl⟩

/-- What shares no character with a part of a text is found in front of the part or behind it. -/
theorem infix_of_disjoint {α : Type} {l part : List α} (hne : part ≠ []) (hpart : ∀ x ∈ part, x ∉ l)
    (front : List α) {back : List α} (h : l <:+: front ++ part ++ back) :
    l <:+: front ∨ l <:+: back := by
  induction part generalizing front with
  | nil => exact absurd rfl hne
  | cons x part ih =>
    rw [List.append_assoc, List.cons_append] at h
    rcases infix_append_cons (hpart x List.mem_cons_self) h with h | h
    · exact .inl h
    · by_cases hnil : part = []
      · exact .inr (by simpa [hnil] using h)
      · rcases ih hnil (fun y hy => hpart y (List.mem_cons_of_mem x hy)) [] h with h | h
        · exact .inl (List.infix_nil.1 h ▸ List.nil_infix)
        · exact .inr h

/-- The path of a model's file has the separators of the path without a name. -/
theorem Layout.filter_modelPath (l : Layout) (s : String) :
    (l.modelPath s).toList.filter isPathSeparator =
      (l.modelPath "").toList.filter isPathSeparator := by
  unfold modelPath
  simp only [String.toList_append, List.filter_append, filter_isPathSeparator_underscore]

/-- Two points in the path of a model's file are those of the layout. -/
theorem Layout.points_of_modelPath {l : Layout} {s : String}
    (h : "..".toList <:+: (l.modelPath s).toList) : "..".toList <:+: (l.modelPath "").toList := by
  by_cases hempty : underscore s = ""
  · unfold modelPath at h
    rw [hempty] at h
    exact h
  · have hpart : ∀ c ∈ (underscore s).toList, c ∉ "..".toList := by
      intro c hc hpoint
      have hc := mem_underscore hc
      obtain rfl : c = '.' := by simpa using hpoint
      revert hc
      decide
    have hne : (underscore s).toList ≠ [] := by simpa using hempty
    unfold modelPath at h
    rw [String.toList_append, String.toList_append] at h
    rcases infix_of_disjoint hne hpart _ h with h | h
    · refine h.trans ⟨[], ".go".toList, ?_⟩
      rw [modelPath, underscore_empty]
      simp [String.toList_append]
    · exact absurd h (by decide)

/-! ## Stems and structs -/

/-- The stem of a name is its own stem and has the struct of the name, so that names with one stem
have one struct. In small letters, digits and underscores, it brings no separator and no two points
to a path, and the file of a model lies right in a directory that the layout alone gives. -/
theorem stems_agree (s : String) :
    (underscore s = "" ∨ IsStem (underscore s)) ∧ underscore (underscore s) = underscore s ∧
      goName (underscore s) = goName s ∧
      (∀ t, underscore t = underscore s → goName t = goName s) ∧
      ∀ l : Layout,
        (l.modelPath s).toList.filter isPathSeparator =
            (l.modelPath "").toList.filter isPathSeparator ∧
          ("..".toList <:+: (l.modelPath s).toList → "..".toList <:+: (l.modelPath "").toList) ∧
          ∃ front back : String, ∀ k,
            placeOf (l.modelPath k) = placeOf front ++ [back ++ underscore k ++ ".go"] := by
  refine ⟨underscore_shape s, ?_, ?_, fun t h => goName_eq_of_underscore h, fun l => ?_⟩
  · rw [underscore_eq, lowerWords_underscore, ← underscore_eq]
  · rw [goName_eq, lowerWords_underscore, ← goName_eq]
  · exact ⟨l.filter_modelPath s, Layout.points_of_modelPath, l.exists_placeOf_modelPath⟩

/-- Two spellings of one name in a directory beside the working directory. -/
theorem httpLog_stem :
    underscore "http-log" = underscore "HTTPLog" ∧ goName "http-log" = goName "HTTPLog" ∧
      "..".toList <:+: (Layout.modelPath { directory := "../models" } "HTTPLog").toList ∧
      "..".toList <:+: (Layout.modelPath { directory := "../models" } "").toList := by
  have hstem : underscore "http-log" = underscore "HTTPLog" := by decide +kernel
  have hpoints :
      "..".toList <:+: (Layout.modelPath { directory := "../models" } "HTTPLog").toList := by
    decide +kernel
  obtain ⟨-, -, -, hstruct, hlayout⟩ := stems_agree "HTTPLog"
  obtain ⟨-, hgiven, -⟩ := hlayout { directory := "../models" }
  exact ⟨hstem, hstruct "http-log" hstem, hpoints, hgiven hpoints⟩

end StructGen
