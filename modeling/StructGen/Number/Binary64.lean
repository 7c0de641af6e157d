/-!
# Binary floating point

Numbers of the binary64 format as exact values: `Binary64.finite` stands for a mantissa times a
power of two, so that rounding and printing are arithmetic on natural numbers.
-/
namespace StructGen.Number

/-- A number of the binary64 format. -/
inductive Binary64
  | finite (negative : Bool) (mantissa : Nat) (exponent : Int)
  | infinite (negative : Bool)
  | nan
deriving DecidableEq, Repr, Inhabited

namespace Binary64

/-- The mantissa of one: all mantissas below it belong to numbers next to zero. -/
def unit : Nat := 0x10000000000000

/-- The number a bit pattern stands for: a sign, eleven bits of exponent and the mantissa. -/
def ofBits (bits : UInt64) : Binary64 :=
  let n := bits.toNat
  let negative := n / 0x8000000000000000 == 1
  let biased : Nat := n / unit % 0x800
  let fraction := n % unit
  if biased = 2047 then
    if fraction = 0 then infinite negative else nan
  else if biased = 0 then finite negative fraction (-1074)
  else finite negative (fraction + unit) ((biased : Int) - 1075)

end Binary64

/-- The integer nearest to a quotient; a tie goes to the even one. -/
def roundDiv (n d : Nat) : Nat :=
  let q := n / d
  let r := n % d
  if 2 * r < d then q
  else if 2 * r = d ∧ q % 2 = 0 then q
  else q + 1

/-- A positive integer rounded to its leading 53 binary digits; a tie goes to the even mantissa. -/
def roundMantissa (n : Nat) : Nat :=
  let excess := Nat.pow 2 (n.log2 + 1 - 53)
  roundDiv n excess * excess

/-- A fraction `numerator / denominator` of natural numbers. -/
structure Fraction where
  numerator : Nat
  denominator : Nat
deriving DecidableEq, Repr

/-- The fraction `n · 2 ^ e`. -/
def Fraction.scaled (n : Nat) (e : Int) : Fraction :=
  ⟨n * Nat.pow 2 e.toNat, Nat.pow 2 (-e).toNat⟩

namespace Binary64

/-- The integer a number is equal to, if there is one. -/
def toInt? : Binary64 → Option Int
  | finite negative m e =>
    let q := Fraction.scaled m e
    if q.numerator % q.denominator = 0 then
      let n : Int := (q.numerator / q.denominator : Nat)
      some (if negative then -n else n)
    else none
  | _ => none

end Binary64

end StructGen.Number
