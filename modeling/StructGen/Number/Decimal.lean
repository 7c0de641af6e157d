import StructGen.Text.Blank
/-!
# Decimal numbers

Decimals keep the digits they were written with: `1.50` and `1.5` are different. They are written
as a plain number unless the exponent is positive or the number has more than six zeros after the
point, and in scientific form otherwise.
-/
namespace StructGen.Number

/-- A decimal number: a coefficient and a power of ten, or one of the special values. -/
inductive Decimal
  | finite (negative : Bool) (coefficient : Nat) (exponent : Int)
  | infinite (negative : Bool)
  /-- No number; a payload of digits tells why. -/
  | nan (negative signalling : Bool) (payload : Nat)
deriving DecidableEq, Repr, Inhabited

namespace Decimal

/-- A decimal in text. -/
def text : Decimal → String
  | finite negative c e =>
    let ds := Nat.toDigits 10 c
    let left : Int := e + ds.length
    let point : Int := if e ≤ 0 ∧ -6 < left then left else 1
    let whole :=
      if point ≤ 0 then '0' :: '.' :: List.replicate (-point).toNat '0' ++ ds
      else if ds.length ≤ point then ds ++ List.replicate (point.toNat - ds.length) '0'
      else ds.take point.toNat ++ '.' :: ds.drop point.toNat
    let shift := left - point
    let scale :=
      if shift = 0 then []
      else 'E' :: (if shift < 0 then '-' else '+') :: Nat.toDigits 10 shift.natAbs
    String.ofList ((if negative then ['-'] else []) ++ whole ++ scale)
  | infinite negative => if negative then "-Infinity" else "Infinity"
  | nan negative signalling payload =>
    (if negative then "-" else "") ++ (if signalling then "sNaN" else "NaN") ++
      (if payload = 0 then "" else toString payload)

/-- The integer a decimal is equal to, if there is one. -/
def toInt? : Decimal → Option Int
  | finite negative c e =>
    let places := (-e).toNat
    if c = 0 then some 0
    else if (Nat.toDigits 10 c).length ≤ places ∨ c % Nat.pow 10 places ≠ 0 then none
    else
      let n : Int := (c / Nat.pow 10 places * Nat.pow 10 e.toNat : Nat)
      some (if negative then -n else n)
  | _ => none

/-- The value of decimal digits, most significant first. -/
def digitsValue (ds : List Char) : Nat :=
  ds.foldl (fun n c => 10 * n + (c.toNat - 48)) 0

/-- A sign and the characters after it. -/
def readSign : List Char → Bool × List Char
  | '-' :: rest => (true, rest)
  | '+' :: rest => (false, rest)
  | rest => (false, rest)

/-- An exponent: nothing, or `e` and a signed number. -/
def readExponent? : List Char → Option Int
  | [] => some 0
  | c :: rest =>
    let (negative, ds) := readSign rest
    if (c == 'e' || c == 'E') && !ds.isEmpty && ds.all Char.isDigit then
      some (if negative then -(digitsValue ds : Int) else digitsValue ds)
    else none

/-- Reads what is no number, from the digits of its payload. -/
def readNan? (negative signalling : Bool) (payload : List Char) : Option Decimal :=
  if payload.all Char.isDigit then some (nan negative signalling (digitsValue payload)) else none

/-- Reads a number: digits with an optional point and exponent. -/
def readFinite? (negative : Bool) (body : List Char) : Option Decimal :=
  let whole := body.takeWhile Char.isDigit
  let rest := body.dropWhile Char.isDigit
  let (fraction, rest) := match rest with
    | '.' :: rest => (rest.takeWhile Char.isDigit, rest.dropWhile Char.isDigit)
    | rest => ([], rest)
  if whole.isEmpty && fraction.isEmpty then none
  else
    (readExponent? rest).map fun e =>
      finite negative (digitsValue (whole ++ fraction)) (e - fraction.length)

/-- Reads a decimal: a number or a special value. White space around it and underscores in it do not
count. -/
def ofText? (s : String) : Option Decimal :=
  let (negative, body) := readSign ((Text.strip Text.isBlank s.toList).filter (· != '_'))
  match body.map Char.toLower with
  | ['i', 'n', 'f'] => some (infinite negative)
  | ['i', 'n', 'f', 'i', 'n', 'i', 't', 'y'] => some (infinite negative)
  | 'n' :: 'a' :: 'n' :: payload => readNan? negative false payload
  | 's' :: 'n' :: 'a' :: 'n' :: payload => readNan? negative true payload
  | body => readFinite? negative body

end Decimal

end StructGen.Number
