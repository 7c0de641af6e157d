/-!
# Alphabetical order

Texts are compared character by character, by code point.
-/
namespace StructGen.Text

/-- Texts in alphabetical order. -/
def sorted (texts : List String) : List String :=
  texts.mergeSort fun a b => decide (a ≤ b)

end StructGen.Text
