import Mathlib.Data.Option.Basic
import StructGen.Value.Line
import StructGen.Value.Text
/-!
# Values that have a text

A value has its texts if and only if every integer in it is short enough to be written
(`Value.shown_eq_ok`); so a dictionary has them if and only if its entries do (`Value.isShort_dict`).
-/
namespace StructGen

open Number

/-! ## Results -/

section Results

variable {ε ε' α β : Type} {x : Except ε α}

theorem map_eq_ok {f : α → β} {b : β} : x.map f = .ok b ↔ ∃ a, x = .ok a ∧ f a = b := by
  cases x <;> simp [Except.map]

theorem map_eq_error {f : α → β} {e : ε} : x.map f = .error e ↔ x = .error e := by
  cases x <;> simp [Except.map]

theorem bind_eq_ok {f : α → Except ε β} {b : β} :
    x >>= f = .ok b ↔ ∃ a, x = .ok a ∧ f a = .ok b := by
  cases x <;> simp [bind, Except.bind]

theorem mapError_eq_ok {f : ε → ε'} {a : α} : x.mapError f = .ok a ↔ x = .ok a := by
  cases x <;> simp [Except.mapError]

theorem mapError_eq_error {f : ε → ε'} {e : ε'} :
    x.mapError f = .error e ↔ ∃ e', x = .error e' ∧ f e' = e := by
  cases x <;> simp [Except.mapError]

end Results

/-! ## Integers -/

namespace Number

theorem showInt_eq_ok {n : Int} {s : String} :
    showInt n = .ok s ↔ isShort n = true ∧ s = toString n := by
  unfold showInt
  split
  · next h => rw [Except.ok.injEq, and_iff_right h, eq_comm]
  · next h => exact iff_of_false nofun fun hshort => h hshort.1

theorem isShort_zero : isShort 0 = true := by
  decide +kernel

/-- The least integer that cannot be written. -/
def overlong : Int :=
  Int.ofNat (Nat.pow 10 digitLimit)

theorem not_isShort_overlong : isShort overlong = false := by
  decide +kernel

end Number

/-! ## Values -/

namespace Value

variable {text : Value → String} {v : Value} {s : String}

theorem shown_eq_ok : v.shown text = .ok s ↔ v.isShort = true ∧ s = text v := by
  unfold shown
  split
  · next h => rw [Except.ok.injEq, and_iff_right h, eq_comm]
  · next h => exact iff_of_false nofun fun hshort => h hshort.1

theorem shown_of_isShort (h : v.isShort = true) (text : Value → String) :
    v.shown text = .ok (text v) :=
  shown_eq_ok.2 ⟨h, rfl⟩

theorem entriesShort_iff {entries : List (String × Value)} :
    entriesShort entries = true ↔ ∀ e ∈ entries, e.2.isShort = true := by
  induction entries with
  | nil => simp [entriesShort]
  | cons e rest ih => simp [entriesShort, ih]

@[simp] theorem isShort_text (s : String) : (Value.text s).isShort = true := rfl

theorem isShort_dict {entries : List (String × Value)} :
    (Value.dict entries).isShort = true ↔ ∀ e ∈ entries, e.2.isShort = true :=
  entriesShort_iff

end Value

end StructGen
