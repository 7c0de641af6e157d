/-!
# Integers in text

An integer is written in decimal digits, unless it has more of them than the limit allows: then it
has no text, and what was to show it fails.
-/
namespace StructGen.Number

/-- The most decimal digits of an integer that is written. -/
def digitLimit : Nat := 4300

/-- The integer has no more digits than the limit allows. -/
def isShort (n : Int) : Bool :=
  n.natAbs < Nat.pow 10 digitLimit

/-- Why a text cannot be made. -/
inductive DigitFault
  /-- An integer has more digits than are written. -/
  | tooManyDigits
deriving DecidableEq, Repr, Inhabited

/-- The message of a fault. -/
def DigitFault.message : DigitFault → String
  | tooManyDigits =>
    "Exceeds the limit (" ++ toString digitLimit ++ " digits) for integer string conversion; " ++
      "use sys.set_int_max_str_digits() to increase the limit"

/-- An integer in text. -/
def showInt (n : Int) : Except DigitFault String :=
  if isShort n then .ok (toString n) else .error .tooManyDigits

end StructGen.Number
