import StructGen.Text.Printable
import StructGen.Text.Quoted
/-!
# Text shown in quotes

Messages and displayed lists show text and bytes in quotes of their own: single quotes, or double
quotes around a text that has single quotes only. A character that does not print is shown by its
code in hexadecimal, in the shortest of three fixed widths.
-/
namespace StructGen.Text

/-- The last `width` hexadecimal digits of a number. -/
def hexDigits : (width : Nat) → Nat → List Char
  | 0, _ => []
  | width + 1, n => hexDigits width (n / 16) ++ [hexDigit (n % 16)]

/-- The quotation mark a text is shown in. -/
def markFor (s : List Char) : Char :=
  if s.contains '\'' && !s.contains '"' then '"' else '\''

/-- The code of a character, in the shortest of the widths. -/
def showCode (c : Char) : List Char :=
  if c.toNat ≤ 0xff then '\\' :: 'x' :: hexDigits 2 c.toNat
  else if c.toNat ≤ 0xffff then '\\' :: 'u' :: hexDigits 4 c.toNat
  else '\\' :: 'U' :: hexDigits 8 c.toNat

/-- A character inside the quotation marks `mark`. -/
def showChar (mark c : Char) : List Char :=
  if c = mark ∨ c = '\\' then ['\\', c]
  else if c = '\n' then ['\\', 'n']
  else if c = '\r' then ['\\', 'r']
  else if c = '\t' then ['\\', 't']
  else if isPrintable c then [c]
  else showCode c

/-- A text in quotation marks. -/
def literal (s : String) : String :=
  let cs := s.toList
  let mark := markFor cs
  String.ofList (mark :: cs.flatMap (showChar mark) ++ [mark])

/-- A text in which only ASCII characters stand for themselves. -/
def ascii (s : String) : String :=
  String.ofList (s.toList.flatMap fun c => if c.toNat < 0x80 then [c] else showCode c)

/-- A byte inside the quotation marks `mark`: printed if it is a printing ASCII character. -/
def showByte (mark : Char) (b : UInt8) : List Char :=
  let c := Char.ofNat b.toNat
  if c = mark ∨ c = '\\' then ['\\', c]
  else if c = '\n' then ['\\', 'n']
  else if c = '\r' then ['\\', 'r']
  else if c = '\t' then ['\\', 't']
  else if 0x20 ≤ b.toNat ∧ b.toNat < 0x7f then [c]
  else '\\' :: 'x' :: hexDigits 2 b.toNat

/-- Bytes in quotation marks, after the letter `b`. -/
def bytesLiteral (bs : List UInt8) : String :=
  let mark := markFor (bs.map fun b => Char.ofNat b.toNat)
  String.ofList ('b' :: mark :: bs.flatMap (showByte mark) ++ [mark])

end StructGen.Text
