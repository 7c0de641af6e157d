import StructGen.Proofs.Stems
import StructGen.Proofs.WordPattern
/-!
# Where words end

`splitWords_cut`: an identifier is cut at its runs of other characters than ASCII letters and
digits, and what is left is cut between two characters where their classes, and that of the next
one, say so (`Parts`). The scanner of words agrees with that rule character by character
(`chunkWords_cons_cons`), and pieces are told by what they make up and where they end, so that no
other cut agrees with it.
-/
namespace StructGen

namespace Naming

/-! ## Boundaries -/

/-- A word ends between `a` and `b`, in front of `next`: a digit and a letter are parted, a small
letter and a capital, and two capitals if the second one starts a capitalised word. -/
def Parts (a b : Char) (next : Option Char) : Prop :=
  (a.isDigit ∧ b.isAlpha) ∨ (a.isLower ∧ b.isUpper) ∨
    (a.isUpper ∧ b.isUpper ∧ next.any Char.isLower)

instance (a b : Char) (next : Option Char) : Decidable (Parts a b next) :=
  inferInstanceAs (Decidable ((a.isDigit ∧ b.isAlpha) ∨ _))

/-- Two capitals stay together unless a small letter follows. -/
theorem nextWord_capitals {a b : Char} (ha : a.isUpper = true) (hb : b.isUpper = true)
    (s : List Char) : nextWord a (b :: s) =
      if s.head?.any Char.isLower then ([], b :: s)
      else (b :: (nextWord b s).1, (nextWord b s).2) := by
  have hal := Char.not_isLower_of_isUpper ha
  have hbl := Char.not_isLower_of_isUpper hb
  by_cases hsmall : (s.dropWhile Char.isUpper).head?.any Char.isLower = true
  · cases hlast : s.takeWhile Char.isUpper with
    | nil =>
      have hdrop := dropWhile_of_takeWhile hlast
      rw [hdrop] at hsmall
      simp [nextWord, ha, hal, hb, hlast, hdrop, hsmall]
    | cons d ds =>
      have hhead : ¬s.head?.any Char.isLower = true := by
        intro hhead
        rw [takeWhile_isUpper_of_small hhead] at hlast
        cases hlast
      simp [nextWord, ha, hal, hb, hbl, hlast, hsmall, hhead, List.getLast?_cons]
  · simp [nextWord, spanWord, ha, hal, hb, hbl, hsmall, head_of_no_small hsmall]

/-- The scan goes on to the next character unless a word ends in front of it. -/
theorem nextWord_cons {a b : Char} (ha : isWordChar a = true) (hb : isWordChar b = true)
    (s : List Char) : nextWord a (b :: s) =
      if Parts a b s.head? then ([], b :: s) else (b :: (nextWord b s).1, (nextWord b s).2) := by
  rcases isWordChar_cases ha with ⟨hau, hal, had⟩ | ⟨hau, hal, had⟩ | ⟨hau, hal, had⟩ <;>
    rcases isWordChar_cases hb with ⟨hbu, hbl, hbd⟩ | ⟨hbu, hbl, hbd⟩ | ⟨hbu, hbl, hbd⟩
  · rw [nextWord_capitals hau hbu]
    simp [Parts, hau, hbu, had, hal]
  all_goals
    simp [nextWord, spanWord, Parts, Char.isAlpha, *]

theorem chunkWords_cons_cons {a b : Char} (ha : isWordChar a = true) (hb : isWordChar b = true)
    (s : List Char) : chunkWords (a :: b :: s) =
      if Parts a b s.head? then [a] :: chunkWords (b :: s)
      else (chunkWords (b :: s)).modifyHead (a :: ·) := by
  rw [chunkWords, nextWord_cons ha hb]
  split
  · rfl
  · rw [chunkWords, List.modifyHead_cons]

/-! ## Cuts -/

/-- A chunk has to be cut in front of position `i`. -/
def IsBoundary (s : List Char) (i : Nat) : Prop :=
  ∃ a b, s[i - 1]? = some a ∧ s[i]? = some b ∧ Parts a b s[i + 1]?

/-- One of the pieces ends in front of position `i`, or all start there. -/
def EndsAt (ws : List (List Char)) (i : Nat) : Prop :=
  ∃ k, (ws.take k).flatten.length = i

/-- The pieces of a chunk that is cut at its boundaries and nowhere else. -/
structure IsCut (c : List Char) (ws : List (List Char)) : Prop where
  flatten : ws.flatten = c
  ne_nil : ∀ w ∈ ws, w ≠ []
  ends_iff : ∀ i, 0 < i → i < c.length → (EndsAt ws i ↔ IsBoundary c i)

theorem isBoundary_one (a b : Char) (s : List Char) :
    IsBoundary (a :: b :: s) 1 ↔ Parts a b s.head? := by
  simp [IsBoundary, List.head?_eq_getElem?]

theorem isBoundary_succ {i : Nat} (hi : 0 < i) (a : Char) (c : List Char) :
    IsBoundary (a :: c) (i + 1) ↔ IsBoundary c i := by
  obtain ⟨j, rfl⟩ := Nat.exists_eq_add_of_lt hi
  simp [IsBoundary]

theorem endsAt_cons {w : List Char} {ws : List (List Char)} {i : Nat} :
    EndsAt (w :: ws) i ↔ i = 0 ∨ ∃ j, EndsAt ws j ∧ i = w.length + j := by
  constructor
  · rintro ⟨k, rfl⟩
    cases k with
    | zero => exact .inl rfl
    | succ k => exact .inr ⟨_, ⟨k, rfl⟩, by simp⟩
  · rintro (rfl | ⟨j, ⟨k, rfl⟩, rfl⟩)
    · exact ⟨0, rfl⟩
    · exact ⟨k + 1, by simp⟩

theorem endsAt_zero (ws : List (List Char)) : EndsAt ws 0 :=
  ⟨0, rfl⟩

namespace IsCut

variable {a b : Char} {s c : List Char} {ws vs : List (List Char)}

theorem nil : IsCut [] [] :=
  ⟨rfl, by simp, by simp⟩

theorem single (a : Char) : IsCut [a] [[a]] := by
  refine ⟨rfl, by simp, fun i hi hlt => ?_⟩
  rw [List.length_singleton] at hlt
  omega

/-- A character in front of a boundary is a piece of its own. -/
theorem part (h : IsCut (b :: s) ws) (hparts : Parts a b s.head?) :
    IsCut (a :: b :: s) ([a] :: ws) := by
  refine ⟨by simp [h.flatten], by simpa using h.ne_nil, fun i hi hlt => ?_⟩
  obtain ⟨j, rfl⟩ := Nat.exists_eq_add_one.2 hi
  rw [List.length_cons] at hlt
  have hends : EndsAt ([a] :: ws) (j + 1) ↔ EndsAt ws j := by
    rw [endsAt_cons]
    constructor
    · rintro (h | ⟨k, hk, hjk⟩)
      · omega
      · rw [List.length_singleton] at hjk
        obtain rfl : j = k := by omega
        exact hk
    · exact fun hj => .inr ⟨j, hj, by rw [List.length_singleton]; omega⟩
  rw [hends]
  rcases Nat.eq_zero_or_pos j with rfl | hj
  · exact iff_of_true (endsAt_zero ws) ((isBoundary_one a b s).2 hparts)
  · rw [isBoundary_succ hj, h.ends_iff j hj (by omega)]

/-- Any other character belongs to the first piece of what follows. -/
theorem join (h : IsCut (b :: s) ws) (hparts : ¬Parts a b s.head?) :
    IsCut (a :: b :: s) (ws.modifyHead (a :: ·)) := by
  cases ws with
  | nil => cases h.flatten
  | cons w ws =>
    have hw : 0 < w.length := List.length_pos_iff.2 (h.ne_nil w List.mem_cons_self)
    rw [List.modifyHead_cons]
    refine ⟨by simp [← h.flatten], fun v hv => ?_, fun i hi hlt => ?_⟩
    · rcases List.mem_cons.1 hv with rfl | hv
      · exact List.cons_ne_nil a w
      · exact h.ne_nil v (List.mem_cons_of_mem w hv)
    · obtain ⟨j, rfl⟩ := Nat.exists_eq_add_one.2 hi
      rw [List.length_cons] at hlt
      have hends : EndsAt ((a :: w) :: ws) (j + 1) ↔ 0 < j ∧ EndsAt (w :: ws) j := by
        simp only [endsAt_cons, List.length_cons]
        constructor
        · rintro (h | ⟨k, hk, hjk⟩)
          · omega
          · exact ⟨by omega, .inr ⟨k, hk, by omega⟩⟩
        · rintro ⟨hj, h | ⟨k, hk, hjk⟩⟩
          · omega
          · exact .inr ⟨k, hk, by omega⟩
      rw [hends]
      rcases Nat.eq_zero_or_pos j with rfl | hj
      · exact iff_of_false (fun h => absurd h.1 (Nat.lt_irrefl 0))
          fun h => hparts ((isBoundary_one a b s).1 h)
      · rw [isBoundary_succ hj, ← h.ends_iff j hj (by omega), and_iff_right hj]

end IsCut

/-- The first piece is not shorter than another one that ends where a piece ends. -/
theorem not_length_lt_of_ends {w v : List Char} {ws vs : List (List Char)} (hw : w ≠ [])
    (hflatten : (w :: ws).flatten = (v :: vs).flatten)
    (hends : ∀ i, 0 < i → i < (w :: ws).flatten.length → EndsAt (w :: ws) i → EndsAt (v :: vs) i) :
    ¬w.length < v.length := by
  intro hlt
  have hlength : w.length < (w :: ws).flatten.length := by
    rw [hflatten, List.flatten_cons, List.length_append]
    omega
  have hpos : 0 < w.length := List.length_pos_iff.2 hw
  have hend : EndsAt (w :: ws) w.length := endsAt_cons.2 (.inr ⟨0, endsAt_zero ws, rfl⟩)
  rcases endsAt_cons.1 (hends w.length hpos hlength hend) with h | ⟨j, -, h⟩ <;> omega

/-- Pieces are told by what they make up and where they end. -/
theorem eq_of_ends {ws vs : List (List Char)} (hws : ∀ w ∈ ws, w ≠ []) (hvs : ∀ v ∈ vs, v ≠ [])
    (hflatten : ws.flatten = vs.flatten)
    (hends : ∀ i, 0 < i → i < ws.flatten.length → (EndsAt ws i ↔ EndsAt vs i)) : ws = vs := by
  induction ws generalizing vs with
  | nil =>
    cases vs with
    | nil => rfl
    | cons v vs => simp [hvs v] at hflatten
  | cons w ws ih =>
    cases vs with
    | nil => simp [hws w] at hflatten
    | cons v vs =>
      have hw := hws w List.mem_cons_self
      have hv := hvs v List.mem_cons_self
      have hwv : ¬w.length < v.length :=
        not_length_lt_of_ends hw hflatten fun i hi hlt => (hends i hi hlt).1
      have hvw : ¬v.length < w.length :=
        not_length_lt_of_ends hv hflatten.symm fun i hi hlt => (hends i hi (hflatten ▸ hlt)).2
      obtain ⟨rfl, htail⟩ := List.append_inj hflatten (by omega)
      have hrest : ∀ us i, 0 < i → (EndsAt (w :: us) (w.length + i) ↔ EndsAt us i) := by
        intro us i hi
        rw [endsAt_cons]
        constructor
        · rintro (h | ⟨j, hj, h⟩)
          · omega
          · obtain rfl : i = j := by omega
            exact hj
        · exact fun h => .inr ⟨i, h, rfl⟩
      rw [ih (fun u hu => hws u (List.mem_cons_of_mem w hu))
        (fun u hu => hvs u (List.mem_cons_of_mem w hu)) htail fun i hi hlt => ?_]
      rw [← hrest ws i hi, ← hrest vs i hi]
      refine hends _ (by omega) ?_
      rw [List.flatten_cons, List.length_append]
      omega

/-- A chunk can be cut in one way only. -/
theorem IsCut.unique {c : List Char} {ws vs : List (List Char)} (hws : IsCut c ws)
    (hvs : IsCut c vs) : ws = vs := by
  refine eq_of_ends hws.ne_nil hvs.ne_nil (hws.flatten.trans hvs.flatten.symm) fun i hi hlt => ?_
  rw [hws.flatten] at hlt
  rw [hws.ends_iff i hi hlt, hvs.ends_iff i hi hlt]

/-- The words of a chunk are its pieces. -/
theorem isCut_chunkWords {c : List Char} (hc : ∀ x ∈ c, isWordChar x = true) :
    IsCut c (chunkWords c) := by
  induction c with
  | nil =>
    rw [chunkWords]
    exact .nil
  | cons a c ih =>
    cases c with
    | nil =>
      have hsingle : chunkWords [a] = [[a]] := by
        simp [chunkWords, nextWord, spanWord]
      rw [hsingle]
      exact .single a
    | cons b s =>
      have hcut := ih fun x hx => hc x (List.mem_cons_of_mem a hx)
      rw [chunkWords_cons_cons (hc a (by simp)) (hc b (by simp))]
      split
      · next hparts => exact hcut.part hparts
      · next hparts => exact hcut.join hparts

/-! ## Identifiers -/

/-- What is left of a text when it is cut at its maximal runs of other characters than ASCII letters
and digits. -/
def chunks (s : List Char) : List (List Char) :=
  (s.splitOnP fun c => !c.isAlphanum).filter (· ≠ [])

theorem chunks_eq_runs (s : List Char) : chunks s = Text.runs (fun c => !isWordChar c) s :=
  (Text.runs_eq_filter _ s).symm

theorem isWordChar_of_mem_chunks {s c : List Char} (hc : c ∈ chunks s) :
    ∀ x ∈ c, isWordChar x = true := by
  rw [chunks_eq_runs] at hc
  intro x hx
  simpa using Text.not_sep_of_mem_runs hc x hx

theorem words_eq_flatMap (s : List Char) : words s = (chunks s).flatMap chunkWords := by
  rw [words, chunks_eq_runs]

theorem flatten_chunks (s : List Char) : (chunks s).flatten = s.filter Char.isAlphanum := by
  rw [chunks, List.flatten_filter_ne_nil]
  induction s with
  | nil => simp
  | cons c s ih =>
    rw [List.splitOnP_cons_eq_if_modifyHead]
    by_cases hc : c.isAlphanum = true
    · obtain ⟨w, ws, hws⟩ := List.exists_cons_of_ne_nil
        (List.splitOnP_ne_nil (fun c : Char => !c.isAlphanum) s)
      rw [hws] at ih ⊢
      simp_all
    · simp [hc, ih]

theorem flatten_words (s : List Char) : (words s).flatten = s.filter Char.isAlphanum := by
  rw [words_eq_flatMap, ← flatten_chunks]
  induction chunks s with
  | nil => rfl
  | cons c cs ih =>
    rw [List.flatMap_cons, List.flatten_append, chunkWords_flatten, ih, List.flatten_cons]

/-- Chunks that are cut are cut into their words. -/
theorem forall₂_isCut_iff {cs : List (List Char)} {cuts : List (List (List Char))}
    (hcs : ∀ c ∈ cs, ∀ x ∈ c, isWordChar x = true) :
    List.Forall₂ IsCut cs cuts ↔ cuts = cs.map chunkWords := by
  induction cs generalizing cuts with
  | nil => simp
  | cons c cs ih =>
    have hc := isCut_chunkWords (hcs c List.mem_cons_self)
    have hrest := fun d hd => hcs d (List.mem_cons_of_mem c hd)
    cases cuts with
    | nil => simp
    | cons ws cuts =>
      rw [List.forall₂_cons, ih hrest, List.map_cons, List.cons.injEq]
      exact and_congr_left fun _ => ⟨fun h => h.unique hc, fun h => h ▸ hc⟩

end Naming

open Naming

/-- The words of an identifier are what its chunks are cut into at their boundaries, and what a
search for the pattern of words finds in them. They hold the letters and digits of the identifier in
order, and none is empty. -/
theorem splitWords_cut (s : String) :
    (∀ ws, splitWords s = ws ↔ ∃ cuts, List.Forall₂ IsCut (chunks s.toList) cuts ∧
        ws = cuts.flatten.map String.ofList) ∧
      splitWords s = ((chunks s.toList).flatMap wordPattern.findAll).map String.ofList ∧
      (splitWords s).flatMap String.toList = s.toList.filter Char.isAlphanum ∧
      "" ∉ splitWords s := by
  refine ⟨fun ws => ?_, ?_, ?_, ?_⟩
  · simp only [forall₂_isCut_iff (fun c hc => isWordChar_of_mem_chunks hc), exists_eq_left,
      ← List.flatMap_def, ← words_eq_flatMap]
    exact eq_comm
  · rw [splitWords, words_eq_flatMap]
    congr 1
    exact List.flatMap_congr fun c hc => (findAll_wordPattern (isWordChar_of_mem_chunks hc)).symm
  · rw [splitWords, List.flatMap_map, ← flatten_words, List.flatMap_def]
    simp
  · intro h
    obtain ⟨w, hw, hempty⟩ := List.mem_map.1 h
    exact ne_nil_of_mem_words hw (by simpa using hempty)

example : splitWords "HTTPServer2fa-über" = ["HTTP", "Server2", "fa", "ber"] := by decide +kernel

end StructGen
