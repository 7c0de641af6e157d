/-!
# Keyed lists

Entries stand in the order in which their keys first came. Writing a key again replaces its value
and leaves its place.
-/
namespace StructGen

/-- Entries by key, in the order in which the keys first came. -/
abbrev Keyed (α : Type) := List (String × α)

namespace Keyed

/-- The value of a key. -/
def get? {α : Type} (entries : Keyed α) (key : String) : Option α :=
  entries.lookup key

/-- Writes a value: in place of an earlier one, or at the end. -/
def put {α : Type} (key : String) (value : α) : Keyed α → Keyed α
  | [] => [(key, value)]
  | (k, v) :: rest => if k = key then (k, value) :: rest else (k, v) :: put key value rest

/-- Changes the value of a key; a key that is absent starts from `initial` at the end. -/
def update {α : Type} (key : String) (initial : α) (f : α → α) : Keyed α → Keyed α
  | [] => [(key, f initial)]
  | (k, v) :: rest =>
    if k = key then (k, f v) :: rest else (k, v) :: update key initial f rest

/-- Writes entries one after the other. -/
def putAll {α : Type} (entries later : Keyed α) : Keyed α :=
  later.foldl (fun d e => put e.1 e.2 d) entries

/-- The keyed list of entries in which a key may repeat: its last value counts. -/
def ofPairs {α : Type} (pairs : List (String × α)) : Keyed α :=
  putAll [] pairs

/-- The keys in order. -/
def keys {α : Type} (entries : Keyed α) : List String :=
  entries.map Prod.fst

end Keyed

end StructGen
