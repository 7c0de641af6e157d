import StructGen.Number.Binary64
/-!
# The shortest decimal that reads back

A binary number is written with the fewest digits that lie in the interval of reals that round to
it, and among those with the ones nearest to it; a tie goes to the even last digit. The search runs
over grids of 1, 2, …, 17 digits and tests the two neighbours of the number on each.
-/
namespace StructGen.Number

/-- A decimal `coefficient · 10 ^ exponent`. -/
structure Digits where
  coefficient : Nat
  exponent : Int
deriving DecidableEq, Repr

/-- The number of decimal digits of a natural number. -/
def digitCount (n : Nat) : Nat :=
  (Nat.toDigits 10 n).length

/-- The exponent of the leading decimal digit of a positive fraction. -/
def Fraction.magnitude (q : Fraction) : Int :=
  if q.denominator ≤ q.numerator then
    (digitCount (q.numerator / q.denominator) : Int) - 1
  else
    -(digitCount ((q.denominator + q.numerator - 1) / q.numerator - 1) : Int)

/-- The reals that round to a number, in units of a quarter of its last binary place. -/
structure Interval where
  low : Nat
  high : Nat
  closed : Bool
deriving DecidableEq, Repr

/-- The interval of a mantissa. The gap below a power of two is half as wide. -/
def Interval.around (mantissa : Nat) (exponent : Int) : Interval where
  low := 4 * mantissa - (if mantissa = Binary64.unit ∧ -1074 < exponent then 1 else 2)
  high := 4 * mantissa + 2
  closed := mantissa % 2 == 0

/-- The decimal lies in an interval whose unit is `2 ^ unit`. -/
def Interval.contains (i : Interval) (unit : Int) (d : Digits) : Bool :=
  let x := d.coefficient * Nat.pow 10 d.exponent.toNat * Nat.pow 2 (-unit).toNat
  let scale := Nat.pow 2 unit.toNat * Nat.pow 10 (-d.exponent).toNat
  if i.closed then i.low * scale ≤ x && x ≤ i.high * scale
  else i.low * scale < x && x < i.high * scale

/-- The fraction divided by `10 ^ k`. -/
def Fraction.inTens (q : Fraction) (k : Int) : Fraction :=
  ⟨q.numerator * Nat.pow 10 (-k).toNat, q.denominator * Nat.pow 10 k.toNat⟩

/-- The neighbours of a fraction among the multiples of `10 ^ k`, the nearer one first. -/
def neighbours (q : Fraction) (k : Int) : List Digits :=
  let scaled := q.inTens k
  let below := scaled.numerator / scaled.denominator
  if roundDiv scaled.numerator scaled.denominator = below then [⟨below, k⟩, ⟨below + 1, k⟩]
  else [⟨below + 1, k⟩, ⟨below, k⟩]

/-- The shortest decimal that reads back as `mantissa · 2 ^ exponent`. -/
def shortest (mantissa : Nat) (exponent : Int) : Digits :=
  if mantissa = 0 then ⟨0, 0⟩
  else
    let q := Fraction.scaled mantissa exponent
    let top := q.magnitude
    let hit := (List.range 17).findSome? fun (n : Nat) =>
      (neighbours q (top - n)).find? (Interval.around mantissa exponent |>.contains (exponent - 2))
    hit.getD ⟨q.numerator / q.denominator, 0⟩

/-- The digits of a number in characters. -/
def digitChars (n : Nat) : List Char :=
  Nat.toDigits 10 n

/-- An exponent with its sign and at least two digits. -/
def exponentText (e : Int) : List Char :=
  let ds := digitChars e.natAbs
  (if e < 0 then '-' else '+') :: (if ds.length < 2 then '0' :: ds else ds)

/-- Digits with a point: positional from `0.0001` below `10 ^ 16`, with an exponent otherwise. -/
def layOut (d : Digits) : List Char :=
  let all := digitChars d.coefficient
  let point := (all.length : Int) + d.exponent
  let ds := match (all.reverse.dropWhile (· == '0')).reverse with
    | [] => ['0']
    | ds => ds
  if -4 < point ∧ point ≤ 16 then
    if point ≤ 0 then '0' :: '.' :: List.replicate (-point).toNat '0' ++ ds
    else if point < ds.length then ds.take point.toNat ++ '.' :: ds.drop point.toNat
    else ds ++ List.replicate (point.toNat - ds.length) '0' ++ ['.', '0']
  else
    match ds with
    | [] => []
    | [c] => c :: 'e' :: exponentText (point - 1)
    | c :: rest => c :: '.' :: rest ++ 'e' :: exponentText (point - 1)

/-- A number in decimal. -/
def Binary64.text : Binary64 → String
  | .finite negative m e =>
    String.ofList ((if negative then ['-'] else []) ++ layOut (shortest m e))
  | .infinite false => "inf"
  | .infinite true => "-inf"
  | .nan => "nan"

end StructGen.Number
