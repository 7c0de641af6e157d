import StructGen.Number.Shortest
/-!
# Numbers with a given number of digits

A number is written with a fixed number of places after the point, with a fixed number of leading
digits and an exponent, or in whichever of the two forms suits its size. It is rounded to the nearest
decimal of that many digits, and a tie goes to the even one.
-/
namespace StructGen.Number

/-- A number of digits that no binary number exceeds, before or after the point: rounding to so many
changes nothing, and all further digits are zeros. -/
def exactPlaces : Nat := 1100

/-- The multiple of `10 ^ k` nearest to a fraction. -/
def Fraction.nearestMultiple (q : Fraction) (k : Int) : Digits :=
  let scaled := q.inTens k
  ⟨roundDiv scaled.numerator scaled.denominator, k⟩

/-- Zeros after digits, up to a number of digits. -/
def padZeros (count : Nat) (ds : List Char) : List Char :=
  ds ++ List.replicate (count - ds.length) '0'

/-- Digits without the zeros at their end. -/
def trimZeros (ds : List Char) : List Char :=
  (ds.reverse.dropWhile (· == '0')).reverse

/-- The leading digits of a fraction, at most `count` of them, and the exponent of the first. -/
def Fraction.leading (q : Fraction) (count : Nat) : List Char × Int :=
  if q.numerator = 0 then (['0'], 0)
  else
    let kept := min count exactPlaces
    let d := q.nearestMultiple (q.magnitude - (kept - 1))
    let ds := digitChars d.coefficient
    (ds.take kept, d.exponent + (ds.length - 1))

/-- The forms of a number. -/
inductive NumberForm
  /-- With a point where it belongs. -/
  | positional
  /-- With one digit before the point and an exponent. -/
  | scientific
  /-- Positional from `0.0001` on for as long as the digits reach to the point, scientific
  otherwise. -/
  | general
deriving DecidableEq, Repr, Inhabited

/-- How a number is written. -/
structure NumberStyle where
  form : NumberForm
  /-- The places after the point, or in the general form the digits. -/
  precision : Nat
  /-- The point stays with nothing after it, and the general form keeps its zeros. -/
  keepPoint : Bool := false
deriving DecidableEq, Repr, Inhabited

namespace NumberStyle

/-- Digits before and after the point. -/
def joined (style : NumberStyle) (whole fraction : List Char) : List Char :=
  if fraction.isEmpty && !style.keepPoint then whole else whole ++ '.' :: fraction

/-- A fraction with its places after the point. -/
def positionalText (style : NumberStyle) (q : Fraction) : List Char :=
  let kept := min style.precision exactPlaces
  let ds := digitChars (q.nearestMultiple (-kept)).coefficient
  let ds := List.replicate (kept + 1 - ds.length) '0' ++ ds
  let whole := ds.length - kept
  style.joined (ds.take whole) (padZeros style.precision (ds.drop whole))

/-- Leading digits with a point after the first and an exponent. -/
def withExponent (style : NumberStyle) (ds : List Char) (exponent : Int) : List Char :=
  style.joined (ds.take 1) (ds.drop 1) ++ 'e' :: exponentText exponent

/-- A fraction with one digit before the point and an exponent. -/
def scientificText (style : NumberStyle) (q : Fraction) : List Char :=
  let (ds, e) := q.leading (style.precision + 1)
  style.withExponent (padZeros (style.precision + 1) ds) e

/-- Leading digits with the point `e + 1` digits in. -/
def withPoint (style : NumberStyle) (ds : List Char) (e : Int) : List Char :=
  if e < 0 then style.joined ['0'] (List.replicate (-e - 1).toNat '0' ++ ds)
  else
    let whole := e.toNat + 1
    style.joined (padZeros whole (ds.take whole)) (ds.drop whole)

/-- A fraction in the form that suits its size. -/
def generalText (style : NumberStyle) (q : Fraction) : List Char :=
  let count := max 1 style.precision
  let (ds, e) := q.leading count
  let ds := if style.keepPoint then padZeros count ds else trimZeros ds
  let ds := if ds.isEmpty then ['0'] else ds
  if e < -4 ∨ count ≤ e then style.withExponent ds e else style.withPoint ds e

/-- A fraction in text. -/
def text (style : NumberStyle) (q : Fraction) : List Char :=
  match style.form with
  | .positional => style.positionalText q
  | .scientific => style.scientificText q
  | .general => style.generalText q

end NumberStyle

end StructGen.Number
