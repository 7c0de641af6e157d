import StructGen.Log.Message.Fault
import StructGen.Number.Nearest
import StructGen.Number.Places
import StructGen.Value
/-!
# Forms of arguments

The letter of a placeholder tells as what an argument is shown: as text, as a character, as an
integer to one of three bases, or as a number with a number of digits. What is not a number of the
kind that a letter asks for is refused.
-/
namespace StructGen.Log

open Number

/-- The bases of integers. -/
inductive IntegerBase
  | octal
  | decimal
  | hexadecimal
deriving DecidableEq, Repr, Inhabited

/-- The number of digits of a base. -/
def IntegerBase.radix : IntegerBase → Nat
  | octal => 8
  | decimal => 10
  | hexadecimal => 16

/-- What tells a base from the decimal one. -/
def IntegerBase.mark : IntegerBase → List Char
  | octal => ['0', 'o']
  | decimal => []
  | hexadecimal => ['0', 'x']

/-- As what an argument is shown. -/
inductive ArgumentForm
  /-- As it reads in a sentence. -/
  | display
  /-- With its text in quotes. -/
  | literal
  /-- With its text in quotes, in ASCII characters. -/
  | ascii
  | character
  | integer (base : IntegerBase) (upper : Bool)
  | real (form : NumberForm) (upper : Bool)
deriving DecidableEq, Repr, Inhabited

/-- The form that a letter asks for. -/
def ArgumentForm.ofLetter? (letter : Char) : Option ArgumentForm :=
  [('s', display), ('r', literal), ('a', ascii), ('c', character),
    ('d', integer .decimal false), ('i', integer .decimal false), ('u', integer .decimal false),
    ('o', integer .octal false), ('x', integer .hexadecimal false),
    ('X', integer .hexadecimal true), ('e', real .scientific false), ('E', real .scientific true),
    ('f', real .positional false), ('F', real .positional true), ('g', real .general false),
    ('G', real .general true)].lookup letter

/-! ## Arguments as numbers and characters -/

/-- The integer part of a fraction of natural numbers, with a sign. -/
def signedQuotient (negative : Bool) (q : Fraction) : Int :=
  let n : Int := (q.numerator / q.denominator : Nat)
  if negative then -n else n

/-- The integer part of a number. It is not computed of a decimal that has too many digits to be
shown. -/
def integerPart : Value → Except MessageFault Int
  | .int n => .ok n
  | .bool b => .ok b.toNat
  | .float (.finite negative m e) => .ok (signedQuotient negative (Fraction.scaled m e))
  | .float (.infinite _) => .error .infiniteInteger
  | .float .nan => .error (.undefinedInteger "float NaN")
  | .decimal (.finite negative c e) =>
    let left : Int := digitCount c + e
    if c = 0 ∨ left ≤ 0 then .ok 0
    else if digitLimit < left then .error (.digits .tooManyDigits)
    else .ok (signedQuotient negative (Fraction.decimal c e))
  | .decimal (.infinite _) => .error .infiniteInteger
  | .decimal (.nan ..) => .error (.undefinedInteger "NaN")
  | _ => .error .notANumber

/-- An argument that is an integer. -/
def asInteger : Value → Except MessageFault Int
  | .int n => .ok n
  | .bool b => .ok b.toNat
  | _ => .error .notAnInteger

/-- A number in binary. -/
def asBinary : Value → Except MessageFault Binary64
  | .int n =>
    match Binary64.ofInt n with
    | .infinite _ => .error .binaryOverflow
    | x => .ok x
  | .bool b => .ok (Binary64.ofInt b.toNat)
  | .float x => .ok x
  | .decimal (.nan _ true _) => .error .signalling
  | .decimal d => .ok d.toBinary64
  | _ => .error .notANumber

/-- An argument that is a character or the code of one. -/
def asCharacter : Value → Except MessageFault Char
  | .text s =>
    match s.toList with
    | [c] => .ok c
    | _ => .error .notACharacter
  | .int n => if n < 0 ∨ 0x110000 ≤ n then .error .codeOverflow else .ok (Char.ofNat n.toNat)
  | .bool b => .ok (Char.ofNat b.toNat)
  | _ => .error .notACharacter

end StructGen.Log
