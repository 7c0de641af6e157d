import StructGen.Text.Blank
/-!
# Words of an identifier

An identifier is cut at every character that is no ASCII letter or digit, and each remaining chunk
is read word by word. A word is an acronym in front of a capitalised word (`HTTP` in `HTTPServer`),
lower-case letters after at most one capital, a run of capitals, or a run of digits; digits that
follow letters belong to their word.
-/
namespace StructGen.Naming

/-- An ASCII letter or digit. -/
def isWordChar (c : Char) : Bool :=
  c.isUpper || c.isLower || c.isDigit

/-- The letters of a class that a text starts with and the digits after them, and what follows. -/
def spanWord (p : Char → Bool) (s : List Char) : List Char × List Char :=
  let tail := s.dropWhile p
  (s.takeWhile p ++ tail.takeWhile Char.isDigit, tail.dropWhile Char.isDigit)

/-- The word that starts at the letter or digit `c`, less that character, and what follows it. -/
def nextWord (c : Char) (s : List Char) : List Char × List Char :=
  if c.isLower then spanWord Char.isLower s
  else if c.isUpper then
    let capitals := s.takeWhile Char.isUpper
    let after := s.dropWhile Char.isUpper
    if after.head?.any Char.isLower then
      match capitals.getLast? with
      | none => spanWord Char.isLower s
      | some last => (capitals.dropLast, last :: after)
    else spanWord Char.isUpper s
  else (s.takeWhile Char.isDigit, s.dropWhile Char.isDigit)

theorem spanWord_append (p : Char → Bool) (s : List Char) :
    (spanWord p s).1 ++ (spanWord p s).2 = s := by
  simp [spanWord]

/-- A word and what follows it make up the text it was read from. -/
theorem nextWord_append (c : Char) (s : List Char) :
    (nextWord c s).1 ++ (nextWord c s).2 = s := by
  unfold nextWord
  split
  · exact spanWord_append _ s
  · split
    · simp only []
      split
      · split
        · exact spanWord_append _ s
        · next last h =>
          obtain ⟨ys, hys⟩ := List.getLast?_eq_some_iff.1 h
          have hs := List.takeWhile_append_dropWhile (p := Char.isUpper) (l := s)
          rw [hys] at hs ⊢
          simpa using hs
      · exact spanWord_append _ s
    · simp

theorem nextWord_length_le (c : Char) (s : List Char) : (nextWord c s).2.length ≤ s.length := by
  have h := congrArg List.length (nextWord_append c s)
  simp only [List.length_append] at h
  omega

/-- The words of a chunk of letters and digits. -/
def chunkWords : List Char → List (List Char)
  | [] => []
  | c :: s => (c :: (nextWord c s).1) :: chunkWords (nextWord c s).2
termination_by s => s.length
decreasing_by
  have := nextWord_length_le c s
  simp only [List.length_cons]
  omega

/-- The words of an identifier. -/
def words (s : List Char) : List (List Char) :=
  (Text.runs (fun c => !isWordChar c) s).flatMap chunkWords

end StructGen.Naming
