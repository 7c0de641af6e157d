import StructGen.Log.Message.ArgumentForm
import StructGen.Value.Text
/-!
# Placement

The flags, the width and the precision of a placeholder tell how an argument stands in a message: with
which sign, with how many digits, and with which characters at which side up to the width.
-/
namespace StructGen.Log

open Number

/-- How an argument is placed. -/
structure Placement where
  flags : List Char := []
  /-- The least number of characters. -/
  width : Nat := 0
  /-- The space that is left over goes to the end. -/
  toLeft : Bool := false
  /-- The most characters of a text, the least digits of an integer, or the digits of any other
  number. -/
  precision : Option Nat := none
deriving DecidableEq, Repr, Inhabited

namespace Placement

/-- The most characters that are filled in. -/
def longest : Nat := 0x1000000

/-- The largest precision. -/
def precisionLimit : Nat := 0x7fffffff

/-- The placement of flags, a width and a precision. A negative width is one to the left, and a
negative precision is zero. -/
def ofCounts (flags : List Char) (width precision : Option Int) : Placement where
  flags
  width := (width.getD 0).natAbs
  toLeft := flags.contains '-' || width.getD 0 < 0
  precision := precision.map Int.toNat

/-- A sign and what it stands before, brought to the width with `fill`. -/
def pad (p : Placement) (fill : Char) (sign body : List Char) : Except MessageFault (List Char) :=
  let missing := p.width - (sign.length + body.length)
  if longest < missing then .error .tooLong
  else if p.toLeft then .ok (sign ++ body ++ List.replicate missing ' ')
  else if fill = '0' then .ok (sign ++ List.replicate missing '0' ++ body)
  else .ok (List.replicate missing ' ' ++ sign ++ body)

/-- A text in its place. -/
def placeText (p : Placement) (s : String) : Except MessageFault (List Char) :=
  p.pad ' ' [] (s.toList.take (p.precision.getD s.length))

/-- The sign of a number. -/
def sign (p : Placement) (negative : Bool) : List Char :=
  if negative then ['-']
  else if p.flags.contains '+' then ['+']
  else if p.flags.contains ' ' then [' ']
  else []

/-- A number with what stands before its digits, in its place. -/
def placeNumber (p : Placement) (upper negative : Bool) (mark body : List Char) :
    Except MessageFault (List Char) :=
  let shown (s : List Char) := if upper then s.map Char.toUpper else s
  p.pad (if p.flags.contains '0' then '0' else ' ') (p.sign negative ++ shown mark) (shown body)

/-- An integer in its place. Its digits are limited in number where their base is not a power of
two. -/
def placeInteger (p : Placement) (base : IntegerBase) (upper : Bool) (n : Int) :
    Except MessageFault (List Char) :=
  let least := p.precision.getD 0
  if precisionLimit - 3 < least then .error .digitOverflow
  else
    let digits := Nat.toDigits base.radix n.natAbs
    if base = .decimal ∧ isShort n = false then .error (.digits .tooManyDigits)
    else if longest < least then .error .tooLong
    else
      p.placeNumber upper (n < 0) (if p.flags.contains '#' then base.mark else [])
        (List.replicate (least - digits.length) '0' ++ digits)

/-- The style of a number in a form. The leading digit of a scientific number counts towards the
largest precision: where there is no room for it, it stands alone. -/
def style (p : Placement) (form : NumberForm) : NumberStyle where
  form
  precision :=
    let given := p.precision.getD 6
    if form = .scientific ∧ given = precisionLimit then 0 else given
  keepPoint := p.flags.contains '#'

/-- A binary number in its place. -/
def placeReal (p : Placement) (form : NumberForm) (upper : Bool) :
    Binary64 → Except MessageFault (List Char)
  | .finite negative m e =>
    let style := p.style form
    if longest < style.precision ∧ (style.keepPoint ∨ form ≠ .general) then .error .tooLong
    else p.placeNumber upper negative [] (style.text (Fraction.scaled m e))
  | .infinite negative => p.placeNumber upper negative [] ['i', 'n', 'f']
  | .nan => p.placeNumber upper false [] ['n', 'a', 'n']

/-- An argument in its place. -/
def place (p : Placement) (v : Value) : ArgumentForm → Except MessageFault (List Char)
  | .display => do
    let text ← v.display.mapError .digits
    p.placeText text
  | .literal => do
    let text ← v.literal.mapError .digits
    p.placeText text
  | .ascii => do
    let text ← v.literal.mapError .digits
    p.placeText (Text.ascii text)
  | .character => do
    let c ← asCharacter v
    p.pad ' ' [] [c]
  | .integer base upper => do
    let n ← if base = .decimal then integerPart v else asInteger v
    p.placeInteger base upper n
  | .real form upper => do
    let x ← asBinary v
    p.placeReal form upper x

end Placement

end StructGen.Log
