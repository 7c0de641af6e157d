import StructGen.Number.Decimal
import StructGen.Number.Shortest
/-!
# The nearest binary number

A fraction is rounded to the binary64 number next to it: its binary places are cut where the format
has no more of them, and a tie goes to the even mantissa. What is too large for the format becomes
infinite.
-/
namespace StructGen.Number

/-- The exponent of the leading binary digit of a positive fraction. -/
def Fraction.binaryMagnitude (q : Fraction) : Int :=
  let e : Int := (q.numerator.log2 : Int) - q.denominator.log2
  if q.denominator * Nat.pow 2 e.toNat ≤ q.numerator * Nat.pow 2 (-e).toNat then e else e - 1

/-- The largest exponent of a mantissa. -/
def Binary64.topExponent : Int := 971

/-- A rounded mantissa with its exponent; one that has grown to the next power of two is halved. -/
def Binary64.ofRounded (negative : Bool) (mantissa : Nat) (exponent : Int) : Binary64 :=
  let (m, e) :=
    if mantissa = 2 * Binary64.unit then (Binary64.unit, exponent + 1) else (mantissa, exponent)
  if Binary64.topExponent < e then .infinite negative else .finite negative m e

/-- The number nearest to a fraction with a sign. -/
def Binary64.nearest (negative : Bool) (q : Fraction) : Binary64 :=
  if q.numerator = 0 then .finite negative 0 (-1074)
  else
    let e := max (q.binaryMagnitude - 52) (-1074)
    let m := roundDiv (q.numerator * Nat.pow 2 (-e).toNat) (q.denominator * Nat.pow 2 e.toNat)
    Binary64.ofRounded negative m e

/-- The number nearest to an integer. -/
def Binary64.ofInt (n : Int) : Binary64 :=
  Binary64.nearest (n < 0) ⟨n.natAbs, 1⟩

/-- The fraction `n · 10 ^ e`. -/
def Fraction.decimal (n : Nat) (e : Int) : Fraction :=
  ⟨n * Nat.pow 10 e.toNat, Nat.pow 10 (-e).toNat⟩

/-- The number nearest to a decimal. One of more than 400 digits before the point is infinite, and
one of more than 400 zeros after it is zero. -/
def Decimal.toBinary64 : Decimal → Binary64
  | .finite negative c e =>
    let left : Int := digitCount c + e
    if c = 0 ∨ left < -400 then .finite negative 0 (-1074)
    else if 400 < left then .infinite negative
    else Binary64.nearest negative (Fraction.decimal c e)
  | .infinite negative => .infinite negative
  | .nan .. => .nan

end StructGen.Number
