import StructGen.Keyed
import StructGen.Value
/-!
# Values as entries

A value that is no dictionary stands for entries if it has parts, each of which has two parts: a key
and its value. Text has its characters as parts, and a dictionary its keys.
-/
namespace StructGen

/-- Why a value stands for no entries. -/
inductive EntriesFault
  /-- The value, one of its parts or a key is of the wrong type. -/
  | untyped
  /-- A part has not two parts. -/
  | notAPair (index length : Nat)
deriving DecidableEq, Repr, Inhabited

/-- The message of a fault. -/
def EntriesFault.message : EntriesFault → String
  | untyped => "the value stands for no entries"
  | notAPair index length =>
    "dictionary update sequence element #" ++ toString index ++ " has length " ++
      toString length ++ "; 2 is required"

namespace Value

/-- The parts of a value. -/
def parts? : Value → Option (List Value)
  | text s => some (s.toList.map fun c => text (String.singleton c))
  | bytes bs => some (bs.map fun b => int b.toNat)
  | list items => some items
  | dict entries => some (entries.map fun e => text e.1)
  | _ => none

/-- A value can be a key. -/
def isKey : Value → Bool
  | list _ | dict _ | decimal (.nan _ true _) => false
  | _ => true

/-- The key and the value of part number `index`. -/
def pair (index : Nat) (part : Value) : Except EntriesFault (Value × Value) :=
  match part.parts? with
  | none => .error .untyped
  | some [k, v] => if k.isKey then .ok (k, v) else .error .untyped
  | some ps => .error (.notAPair index ps.length)

/-- The entries of pairs of which the first is number `index`; keys that are no text are left out. -/
def entriesOf (entries : Keyed Value) (index : Nat) : List Value → Except EntriesFault (Keyed Value)
  | [] => .ok entries
  | part :: rest =>
    match part.pair index with
    | .error fault => .error fault
    | .ok (.text k, v) => entriesOf (entries.put k v) (index + 1) rest
    | .ok _ => entriesOf entries (index + 1) rest

/-- The entries that a value stands for. -/
def entries : Value → Except EntriesFault (Keyed Value)
  | dict entries => .ok entries
  | v =>
    match v.parts? with
    | some parts => entriesOf [] 0 parts
    | none => .error .untyped

end Value

end StructGen
