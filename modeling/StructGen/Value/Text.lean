import StructGen.Number.Shortest
import StructGen.Number.Shown
import StructGen.Text.Literal
import StructGen.Value
/-!
# Values as text

`Value.display` is a value as it reads in a sentence: text and decimals stand for themselves, and
anything else is shown by `Value.literal`, which puts text in quotation marks. A value with an
integer that has too many digits has no text.
-/
namespace StructGen.Value

open Text Number

/-! ## Values that have a text -/

mutual

/-- Every integer in a value can be written. -/
def isShort : Value → Bool
  | int n => Number.isShort n
  | list items => areShort items
  | dict entries => entriesShort entries
  | _ => true

/-- Every integer in the items of a list can be written. -/
def areShort : List Value → Bool
  | [] => true
  | v :: vs => isShort v && areShort vs

/-- Every integer in the entries of a dictionary can be written. -/
def entriesShort : List (String × Value) → Bool
  | [] => true
  | (_, v) :: rest => isShort v && entriesShort rest

end

/-- The text of a value, if every integer in it can be written. -/
def shown (text : Value → String) (v : Value) : Except DigitFault String :=
  if v.isShort then .ok (text v) else .error .tooManyDigits

/-! ## The texts -/

mutual

/-- A value with its text in quotation marks, its integers as long as they are. -/
def literalText : Value → String
  | null => "None"
  | bool true => "True"
  | bool false => "False"
  | int n => toString n
  | float x => x.text
  | text s => Text.literal s
  | decimal d => "Decimal('" ++ d.text ++ "')"
  | bytes bs => bytesLiteral bs
  | list items => "[" ++ String.intercalate ", " (literals items) ++ "]"
  | dict entries => "\x7b" ++ String.intercalate ", " (entryLiterals entries) ++ "\x7d"

/-- The items of a list with their text in quotation marks. -/
def literals : List Value → List String
  | [] => []
  | v :: vs => literalText v :: literals vs

/-- The entries of a dictionary with their text in quotation marks. -/
def entryLiterals : List (String × Value) → List String
  | [] => []
  | (k, v) :: rest => (Text.literal k ++ ": " ++ literalText v) :: entryLiterals rest

end

/-- A value as it reads in a sentence, its integers as long as they are. -/
def displayText : Value → String
  | text s => s
  | decimal d => d.text
  | v => literalText v

/-- A value with its text in quotation marks. -/
def literal (v : Value) : Except DigitFault String :=
  v.shown literalText

/-- A value as it reads in a sentence. -/
def display (v : Value) : Except DigitFault String :=
  v.shown displayText

end StructGen.Value
