import StructGen.Number.Shown
/-!
# Faults of messages

What can be wrong with the placeholders of a message and the arguments that fill them.
-/
namespace StructGen.Log

open Number

/-- What is wrong with a message or its arguments. -/
inductive MessageFault
  /-- The message asks for more arguments than there are. -/
  | tooFewArguments
  /-- The message leaves arguments over. -/
  | tooManyArguments
  /-- The message ends within a placeholder. -/
  | incomplete
  /-- The message ends within a key. -/
  | unclosedKey
  /-- A key is given, but the arguments have no keys. -/
  | keyless
  /-- The arguments have no entry of a key. -/
  | missingKey (key : String)
  /-- A placeholder has a letter that is none of the known ones. -/
  | unsupportedLetter (letter : Char) (index : Nat)
  /-- A width or precision that is an argument has to be an integer. -/
  | untypedCount
  /-- A width or precision that is an argument is too large. -/
  | countOverflow
  /-- A width is too large. -/
  | widthTooLarge
  /-- A precision is too large. -/
  | precisionTooLarge
  /-- A precision is too large for an integer. -/
  | digitOverflow
  /-- An argument that has to be a number is none. -/
  | notANumber
  /-- An argument that has to be an integer is none. -/
  | notAnInteger
  /-- An argument that has to be a character is none. -/
  | notACharacter
  /-- An argument is the code of no character. -/
  | codeOverflow
  /-- An argument is the number that is not a number, for which its type has a word. -/
  | undefinedInteger (word : String)
  /-- An argument is infinite. -/
  | infiniteInteger
  /-- An integer cannot be written. -/
  | digits (fault : DigitFault)
  /-- An argument signals that it is not a number. -/
  | signalling
  /-- An integer is too large for a binary number. -/
  | binaryOverflow
  /-- A text is too long to be held. -/
  | tooLong
deriving DecidableEq, Repr, Inhabited

/-- A letter as a message shows it: only printing ASCII characters are shown. -/
def shownLetter (c : Char) : Char :=
  if 31 ≤ c.toNat ∧ c.toNat < 127 then c else '?'

/-- The text of a fault. -/
def MessageFault.text : MessageFault → String
  | tooFewArguments => "the message asks for more arguments"
  | tooManyArguments => "the message leaves arguments over"
  | incomplete => "incomplete format"
  | unclosedKey => "incomplete format key"
  | keyless => "the arguments have no keys"
  | missingKey key => key
  | unsupportedLetter c index =>
    "unsupported format character '" ++ String.singleton (shownLetter c) ++ "' (0x" ++
      String.ofList (Nat.toDigits 16 c.toNat) ++ ") at index " ++ toString index
  | untypedCount => "a width or precision has to be an integer"
  | countOverflow => "the width or precision is too large"
  | widthTooLarge => "width too big"
  | precisionTooLarge => "precision too big"
  | digitOverflow => "the precision is too large"
  | notANumber => "the argument has to be a number"
  | notAnInteger => "the argument has to be an integer"
  | notACharacter => "the argument has to be a character"
  | codeOverflow => "the argument is the code of no character"
  | undefinedInteger word => "cannot convert " ++ word ++ " to integer"
  | infiniteInteger => "an infinite number has no integer part"
  | digits fault => fault.message
  | signalling => "cannot convert signaling NaN to float"
  | binaryOverflow => "the integer is too large"
  | tooLong => "the text is too long"

end StructGen.Log
