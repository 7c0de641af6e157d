import StructGen.Text.Quoted
import StructGen.Value.Text
/-!
# Values on one line

A value as JSON, with `, ` and `: ` between its parts. Decimals and bytes have no JSON form and are
written as strings of their display text. A value with an integer that has too many digits has no
line.
-/
namespace StructGen.Value

open Text Number

/-- A number as it stands in a line. -/
def numberLine : Binary64 → String
  | .nan => "NaN"
  | .infinite false => "Infinity"
  | .infinite true => "-Infinity"
  | x => x.text

mutual

/-- A value as one line of JSON, its integers as long as they are. -/
def lineText : Value → String
  | null => "null"
  | bool true => "true"
  | bool false => "false"
  | int n => toString n
  | float x => numberLine x
  | text s => quote s
  | decimal d => quote d.text
  | bytes bs => quote (bytesLiteral bs)
  | list items => "[" ++ String.intercalate ", " (lines items) ++ "]"
  | dict entries => "\x7b" ++ String.intercalate ", " (entryLines entries) ++ "\x7d"

/-- The items of a list as JSON. -/
def lines : List Value → List String
  | [] => []
  | v :: vs => lineText v :: lines vs

/-- The entries of a dictionary as JSON. -/
def entryLines : List (String × Value) → List String
  | [] => []
  | (k, v) :: rest => (quote k ++ ": " ++ lineText v) :: entryLines rest

end

/-- A value as one line of JSON. -/
def line (v : Value) : Except DigitFault String :=
  v.shown lineText

end StructGen.Value
