import StructGen.Proofs.Identifiers
/-!
# Words by a pattern

The words of a chunk can also be told by a pattern with four alternatives, as a search that tries
them in order and goes back where one fails finds them. `findAll_wordPattern`: the scanner of a
chunk finds the same words without going back, since the character a word starts with and the one
behind its letters decide which alternative is the first to match.
-/
namespace StructGen.Naming

/-! ## Patterns -/

/-- A pattern of characters. Of two alternatives the first is preferred, and of the lengths of a
repetition the longest; what follows can be looked at without being taken. -/
inductive Pattern
  | empty
  | one (p : Char → Bool)
  | many (p : Char → Bool)
  | followed (a : Pattern)
  | both (a b : Pattern)
  | either (a b : Pattern)

namespace Pattern

/-- What can be left behind a repetition, the longest one first. -/
def manyRests (p : Char → Bool) : List Char → List (List Char)
  | [] => [[]]
  | c :: s => if p c then manyRests p s ++ [c :: s] else [c :: s]

/-- What is left behind each match at the start of a text, in the order in which a search that goes
back tries them. -/
def rests : Pattern → List Char → List (List Char)
  | empty, s => [s]
  | one _, [] => []
  | one p, c :: s => if p c then [s] else []
  | many p, s => manyRests p s
  | followed a, s => if (a.rests s).isEmpty then [] else [s]
  | both a b, s => (a.rests s).flatMap b.rests
  | either a b, s => a.rests s ++ b.rests s

/-- What is left behind the match that is preferred. -/
def rest? (a : Pattern) (s : List Char) : Option (List Char) :=
  (a.rests s).head?

/-- The matches in a text that are not empty, from left to right: the search goes on behind the
match that is preferred, or at the next character where there is none. -/
def findAll (a : Pattern) : List Char → List (List Char)
  | [] => []
  | c :: s =>
    match a.rest? (c :: s) with
    | some rest =>
      if rest.length ≤ s.length then
        (c :: s).take ((c :: s).length - rest.length) :: findAll a rest
      else findAll a s
    | none => findAll a s
termination_by s => s.length

/-- One character of a class or none. -/
def optional (p : Char → Bool) : Pattern :=
  either (one p) empty

/-- Characters of a class, at least one. -/
def several (p : Char → Bool) : Pattern :=
  both (one p) (many p)

end Pattern

open Pattern in
/-- A word: capitals in front of a capitalised word; small letters after at most one capital, or
capitals, each with the digits behind them; or digits. -/
def wordPattern : Pattern :=
  either (both (several Char.isUpper) (followed (both (one Char.isUpper) (one Char.isLower))))
    (either (both (optional Char.isUpper) (both (several Char.isLower) (many Char.isDigit)))
      (either (both (several Char.isUpper) (many Char.isDigit))
        (several Char.isDigit)))

/-! ## Which match is preferred -/

namespace Pattern

variable {p : Char → Bool} {a b : Pattern} {s : List Char}

theorem head?_manyRests (p : Char → Bool) (s : List Char) :
    (manyRests p s).head? = some (s.dropWhile p) := by
  induction s with
  | nil => rfl
  | cons c s ih =>
    unfold manyRests
    split
    · next hc => simp [ih, hc]
    · next hc => simp [hc]

theorem rest?_either : (either a b).rest? s = (a.rest? s).or (b.rest? s) :=
  List.head?_append

/-- A repetition never fails, so that nobody goes back behind it. -/
theorem rest?_both_many : (both a (many p)).rest? s = (a.rest? s).map (List.dropWhile p) := by
  unfold rest?
  rw [rests]
  cases a.rests s with
  | nil => rfl
  | cons r rs => simp [rests, head?_manyRests]

theorem rest?_several {c : Char} :
    (several p).rest? (c :: s) = if p c then some (s.dropWhile p) else none := by
  rw [several, rest?_both_many]
  unfold rest?
  rw [rests]
  split <;> rfl

theorem rest?_optional_both {c : Char} : (both (optional p) b).rest? (c :: s) =
    if p c then (b.rest? s).or (b.rest? (c :: s)) else b.rest? (c :: s) := by
  unfold rest?
  simp only [optional, rests]
  split <;> simp

/-- What is left in front of something that can be looked at: the search goes back to it. -/
theorem rest?_both_followed :
    (both a (followed b)).rest? s = (a.rests s).find? fun r => !(b.rests r).isEmpty := by
  unfold rest?
  rw [rests]
  induction a.rests s with
  | nil => rfl
  | cons r rs ih =>
    rw [List.flatMap_cons, List.head?_append, ih, List.find?_cons]
    cases hb : (b.rests r).isEmpty <;> simp [rests, hb]

end Pattern

/-! ## The alternatives of a word -/

/-- A text starts like a capitalised word. -/
def startsCapitalised : List Char → Bool
  | a :: b :: _ => a.isUpper && b.isLower
  | _ => false

theorem isEmpty_capitalised (s : List Char) :
    ((Pattern.both (.one Char.isUpper) (.one Char.isLower)).rests s).isEmpty =
      !startsCapitalised s := by
  match s with
  | [] => rfl
  | [a] => cases ha : a.isUpper <;> simp [Pattern.rests, startsCapitalised, ha]
  | a :: b :: rest =>
    cases ha : a.isUpper <;> cases hb : b.isLower <;>
      simp [Pattern.rests, startsCapitalised, ha, hb]

/-- Of the capitals in front of a small letter the search gives back the last one. -/
theorem find?_startsCapitalised (s : List Char) :
    (Pattern.manyRests Char.isUpper s).find? startsCapitalised =
      if (s.dropWhile Char.isUpper).head?.any Char.isLower then
        (s.takeWhile Char.isUpper).getLast?.map (· :: s.dropWhile Char.isUpper)
      else none := by
  induction s with
  | nil => rfl
  | cons c s ih =>
    unfold Pattern.manyRests
    by_cases hc : c.isUpper = true
    · rw [if_pos hc, List.find?_append, ih, List.dropWhile_cons_of_pos hc,
        List.takeWhile_cons_of_pos hc]
      cases s with
      | nil => simp [startsCapitalised]
      | cons d t =>
        by_cases hd : d.isUpper = true
        · -- Two capitals do not start a capitalised word, so the answer is that of the rest.
          have hlast : ((d :: t).takeWhile Char.isUpper).getLast?.isSome = true := by simp [hd]
          have hstart : startsCapitalised (c :: d :: t) = false := by
            simp [startsCapitalised, Char.not_isLower_of_isUpper hd]
          obtain ⟨last, hlast⟩ := Option.isSome_iff_exists.1 hlast
          rw [hlast, List.getLast?_cons, hlast]
          split <;> simp [hstart]
        · simp [startsCapitalised, hd, hc]
    · have hstart : startsCapitalised (c :: s) = false := by
        cases s <;> simp [startsCapitalised, hc]
      simp [hstart, hc]

variable {c : Char} {s : List Char}

theorem dropWhile_of_takeWhile {p : Char → Bool} (h : s.takeWhile p = []) : s.dropWhile p = s := by
  have happend := List.takeWhile_append_dropWhile (p := p) (l := s)
  rwa [h] at happend

/-- No capitals are taken in front of a small letter. -/
theorem takeWhile_isUpper_of_small (h : s.head?.any Char.isLower = true) :
    s.takeWhile Char.isUpper = [] := by
  cases s with
  | nil => rfl
  | cons c s => exact List.takeWhile_cons_of_neg (Char.not_isUpper_of_isLower h)

/-- Where no small letter follows the capitals, the text does not start with one either. -/
theorem head_of_no_small (h : ¬(s.dropWhile Char.isUpper).head?.any Char.isLower = true) :
    ¬s.head?.any Char.isLower = true := by
  intro hhead
  rw [dropWhile_of_takeWhile (takeWhile_isUpper_of_small hhead)] at h
  exact h hhead

open Pattern

/-- Behind a capital the first alternative leaves what a small letter takes along. -/
theorem rest?_acronym :
    (both (several Char.isUpper) (followed (both (one Char.isUpper) (one Char.isLower)))).rest?
        (c :: s) =
      if c.isUpper ∧ (s.dropWhile Char.isUpper).head?.any Char.isLower then
        (s.takeWhile Char.isUpper).getLast?.map (· :: s.dropWhile Char.isUpper)
      else none := by
  have hstarts : (fun r => !((both (one Char.isUpper) (one Char.isLower)).rests r).isEmpty) =
      startsCapitalised := by
    funext r
    rw [isEmpty_capitalised, Bool.not_not]
  rw [rest?_both_followed, hstarts]
  by_cases hc : c.isUpper = true <;>
    simp [several, rests, hc, find?_startsCapitalised]

/-- Letters of a class and the digits behind them. -/
theorem rest?_lettered (p : Char → Bool) (s : List Char) :
    (both (several p) (many Char.isDigit)).rest? s =
      if s.head?.any p then some (spanWord p s).2 else none := by
  rw [rest?_both_many]
  cases s with
  | nil => rfl
  | cons c s =>
    rw [rest?_several]
    by_cases hc : p c = true <;> simp [hc, spanWord]

/-- The match that is preferred at a letter or digit is the word that starts there. -/
theorem rest?_wordPattern (hc : isWordChar c = true) :
    wordPattern.rest? (c :: s) = some (nextWord c s).2 := by
  rw [wordPattern, rest?_either, rest?_either, rest?_either, rest?_acronym, rest?_optional_both,
    rest?_lettered, rest?_lettered, rest?_lettered, rest?_several]
  rcases isWordChar_cases hc with ⟨hu, hl, hd⟩ | ⟨hu, hl, hd⟩ | ⟨hu, hl, hd⟩
  · by_cases hsmall : (s.dropWhile Char.isUpper).head?.any Char.isLower = true
    · cases hlast : (s.takeWhile Char.isUpper).getLast? with
      | some last => simp [hu, hl, nextWord, hsmall, hlast]
      | none =>
        -- No capital stands between `c` and the small letter: `c` starts a capitalised word.
        have hnone := dropWhile_of_takeWhile (List.getLast?_eq_none_iff.1 hlast)
        rw [hnone] at hsmall
        simp [hu, hl, nextWord, hnone, hsmall, hlast]
    · simp [hu, hl, nextWord, spanWord, hsmall, head_of_no_small hsmall]
  · simp [hu, hl, nextWord, spanWord]
  · simp [hu, hl, hd, nextWord]

/-- The words of a chunk are what a search for the pattern finds. -/
theorem findAll_wordPattern {s : List Char} (hs : ∀ c ∈ s, isWordChar c = true) :
    wordPattern.findAll s = chunkWords s := by
  induction s using chunkWords.induct with
  | case1 => rw [findAll, chunkWords]
  | case2 c s ih =>
    have hword := nextWord_append c s
    have hrest : ∀ d ∈ (nextWord c s).2, isWordChar d = true := by
      intro d hd
      refine hs d (List.mem_cons_of_mem c ?_)
      rw [← hword]
      exact List.mem_append_right _ hd
    have htake : (c :: s).take ((c :: s).length - (nextWord c s).2.length) =
        c :: (nextWord c s).1 := by
      have hcons : c :: s = (c :: (nextWord c s).1) ++ (nextWord c s).2 := by
        rw [List.cons_append, hword]
      rw [hcons, List.length_append, Nat.add_sub_cancel, List.take_left]
    rw [findAll, chunkWords, rest?_wordPattern (hs c List.mem_cons_self)]
    simp only []
    rw [if_pos (nextWord_length_le c s), htake, ih hrest]

end StructGen.Naming
