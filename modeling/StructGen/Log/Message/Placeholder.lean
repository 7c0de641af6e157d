import StructGen.Number.Decimal
/-!
# Placeholders

A placeholder is a percent sign and, in this order and each but the letter left out at will, a key in
parentheses, flags, a width, a point with a precision, a size letter that says nothing, and the
letter that tells how the argument is shown. `Placeholder.read` reads what follows the percent sign.
-/
namespace StructGen.Log

open Number

/-- The key of a placeholder. -/
inductive PlaceholderKey
  | absent
  | name (text : String)
  /-- The message ends before the parenthesis that closes the key. -/
  | unclosed
deriving DecidableEq, Repr, Inhabited

/-- A width or a precision. -/
inductive PlaceholderCount
  | digits (n : Nat)
  /-- The next argument is the number. -/
  | argument
deriving DecidableEq, Repr, Inhabited

/-- What stands after a percent sign. -/
structure Placeholder where
  key : PlaceholderKey := .absent
  flags : List Char := []
  width : Option PlaceholderCount := none
  precision : Option PlaceholderCount := none
  /-- The letter, unless the message ends before it. -/
  letter : Option Char := none
deriving DecidableEq, Repr, Inhabited

namespace Placeholder

/-- The characters that can stand before the width. -/
def flagChars : List Char :=
  ['-', '+', ' ', '#', '0']

/-- The letters that may stand before the letter of a placeholder and say nothing. -/
def sizeLetters : List Char :=
  ['h', 'l', 'L']

/-- A text up to the parenthesis that closes one which stands before it, with `depth` others to be
closed first, and what follows. -/
def splitKey : (depth : Nat) → List Char → Option (List Char × List Char)
  | _, [] => none
  | 0, ')' :: rest => some ([], rest)
  | depth + 1, ')' :: rest => (splitKey depth rest).map fun (key, rest) => (')' :: key, rest)
  | depth, '(' :: rest => (splitKey (depth + 1) rest).map fun (key, rest) => ('(' :: key, rest)
  | depth, c :: rest => (splitKey depth rest).map fun (key, rest) => (c :: key, rest)

/-- A key and what follows it. -/
def readKey : List Char → PlaceholderKey × List Char
  | '(' :: rest =>
    match splitKey 0 rest with
    | some (key, rest) => (.name (String.ofList key), rest)
    | none => (.unclosed, [])
  | s => (.absent, s)

/-- A number or an asterisk, and what follows it. -/
def readCount : List Char → Option PlaceholderCount × List Char
  | '*' :: rest => (some .argument, rest)
  | s =>
    match s.takeWhile Char.isDigit with
    | [] => (none, s)
    | ds => (some (.digits (Decimal.digitsValue ds)), s.dropWhile Char.isDigit)

/-- A precision and what follows it. A point alone is a precision of zero. -/
def readPrecision : List Char → Option PlaceholderCount × List Char
  | '.' :: rest =>
    let (count, rest) := readCount rest
    (some (count.getD (.digits 0)), rest)
  | s => (none, s)

/-- What follows a size letter, if there is one. -/
def skipSize : List Char → List Char
  | c :: rest => if sizeLetters.contains c then rest else c :: rest
  | [] => []

/-- A placeholder and what follows it. -/
def read (s : List Char) : Placeholder × List Char :=
  let (key, s) := readKey s
  let flags := s.takeWhile flagChars.contains
  let (width, s) := readCount (s.dropWhile flagChars.contains)
  let (precision, s) := readPrecision s
  let s := skipSize s
  ({ key, flags, width, precision, letter := s.head? }, s.tail)

/-! ## What follows is shorter -/

theorem length_splitKey_le (s : List Char) (depth : Nat) (key rest : List Char)
    (h : splitKey depth s = some (key, rest)) : rest.length ≤ s.length := by
  induction s generalizing depth key with
  | nil => simp [splitKey] at h
  | cons c s ih =>
    have step (depth : Nat) (key : List Char) (h : splitKey depth s = some (key, rest)) :
        rest.length ≤ (c :: s).length :=
      Nat.le_succ_of_le (ih depth key h)
    unfold splitKey at h
    split at h
    · simp at h
    · simp_all
    all_goals
      simp only [Option.map_eq_some_iff, Prod.mk.injEq, Prod.exists] at h
      obtain ⟨key', rest', h, -, rfl⟩ := h
      simp_all only [List.cons.injEq]
      exact step _ _ (by assumption)

theorem length_readKey_le (s : List Char) : (readKey s).2.length ≤ s.length := by
  unfold readKey
  split
  · split
    · rename_i h
      exact Nat.le_succ_of_le (length_splitKey_le _ _ _ _ h)
    · exact Nat.zero_le _
  · exact Nat.le_refl _

theorem length_readCount_le (s : List Char) : (readCount s).2.length ≤ s.length := by
  unfold readCount
  split
  · simp
  · split
    · exact Nat.le_refl _
    · exact (List.dropWhile_suffix _).length_le

theorem length_readPrecision_le (s : List Char) : (readPrecision s).2.length ≤ s.length := by
  unfold readPrecision
  split
  · exact Nat.le_succ_of_le (length_readCount_le _)
  · exact Nat.le_refl _

theorem length_skipSize_le (s : List Char) : (skipSize s).length ≤ s.length := by
  cases s with
  | nil => exact Nat.le_refl _
  | cons c rest =>
    simp only [skipSize]
    split <;> simp

/-- What follows a placeholder is no longer than the text it was read from. -/
theorem length_read_le (s : List Char) : (read s).2.length ≤ s.length := by
  have h₁ := length_readKey_le s
  have h₂ := (List.dropWhile_suffix (l := (readKey s).2) flagChars.contains).length_le
  have h₃ := length_readCount_le ((readKey s).2.dropWhile flagChars.contains)
  have h₄ := length_readPrecision_le (readCount ((readKey s).2.dropWhile flagChars.contains)).2
  have h₅ := length_skipSize_le
    (readPrecision (readCount ((readKey s).2.dropWhile flagChars.contains)).2).2
  simp only [read, List.length_tail]
  omega

end Placeholder

end StructGen.Log
