import StructGen.Number.Binary64
import StructGen.Number.Decimal
/-!
# Dynamic values

Defaults of columns, the fields of log records, the details of an error and raw settings are
values whose type is known only at run time. Dictionaries keep the order of their entries.
-/
namespace StructGen

open Number

/-- A value of a type known at run time. -/
inductive Value
  | null
  | bool (b : Bool)
  | int (n : Int)
  | float (x : Binary64)
  | text (s : String)
  | decimal (d : Decimal)
  | bytes (bs : List UInt8)
  | list (items : List Value)
  | dict (entries : List (String × Value))
deriving Repr, Inhabited

namespace Value

/-- A list of texts. -/
def texts (ss : List String) : Value :=
  list (ss.map text)

/-- A text, or null. -/
def textOrNull : Option String → Value
  | some s => text s
  | none => null

end Value

end StructGen
