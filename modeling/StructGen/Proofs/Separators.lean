import Mathlib.Data.List.Forall2
import Mathlib.Data.List.Infix
/-!
# Texts of marked parts

A text is put together from values, each behind a mark. Where two marks of a kind in one text are
the same or stand apart, two ways to read a text are the same, or one has a value that holds the
mark behind it and the other a value that holds a mark of its own (`parts_eq_or`). Both are what it
takes: if a value holds such a mark, there is another way to read the text (`exists_other`).
-/
namespace StructGen

/-! ## Parts -/

/-- A value behind a mark. -/
@[ext]
structure Part where
  mark : String
  value : String
deriving DecidableEq, Repr

/-- A kind of part: the marks that may introduce it, and whether it needs a value. -/
structure PartKind where
  IsMark : String → Prop
  required : Bool := false

namespace PartKind

/-- The kind of the parts behind one word. -/
def word (w : String) (required : Bool := false) : PartKind :=
  ⟨(· = w), required⟩

/-- The value can stand in a part of the kind. -/
def Admits (k : PartKind) (value : String) : Prop :=
  k.required = true → value ≠ ""

/-- The part is one of the kind. -/
structure Fits (k : PartKind) (p : Part) : Prop where
  mark : k.IsMark p.mark
  value : k.Admits p.value

variable {k : PartKind} {p : Part} {w m value : String} {required : Bool}

@[simp]
theorem fits_iff : k.Fits p ↔ k.IsMark p.mark ∧ k.Admits p.value :=
  ⟨fun h => ⟨h.mark, h.value⟩, fun h => ⟨h.1, h.2⟩⟩

@[simp]
theorem isMark_word : (word w required).IsMark m ↔ m = w :=
  .rfl

@[simp]
theorem admits_word : (word w required).Admits value ↔ (required = true → value ≠ "") :=
  .rfl

/-- Of two marks of the kind in one text, the second is the first or stands behind it. -/
structure StandApart (k : PartKind) : Prop where
  ne_empty {s : String} (hs : k.IsMark s) : s ≠ ""
  apart {s t between after rest : String} (hs : k.IsMark s) (ht : k.IsMark t)
    (h : s ++ after = between ++ t ++ rest) :
    between = "" ∧ s = t ∨ ∃ y, between = s ++ y

namespace Admits

variable {k : PartKind} {s : String}

theorem append_right (h : k.Admits s) (t : String) : k.Admits (s ++ t) :=
  fun hk hempty => h hk (String.append_eq_empty_iff.1 hempty).1

theorem append_left (h : k.Admits s) (t : String) : k.Admits (t ++ s) :=
  fun hk hempty => h hk (String.append_eq_empty_iff.1 hempty).2

end Admits

namespace StandApart

variable {k : PartKind} {s t z after rest : String}

theorem exists_between (h : k.StandApart) (hs : k.IsMark s) (ht : k.IsMark t) (hz : z ≠ "")
    (htext : s ++ after = z ++ (t ++ rest)) : ∃ y, z = s ++ y := by
  rw [← String.append_assoc] at htext
  exact (h.apart hs ht htext).resolve_left fun heq => hz heq.1

theorem mark_eq (h : k.StandApart) (hs : k.IsMark s) (ht : k.IsMark t)
    (htext : s ++ after = t ++ rest) : s = t := by
  rw [← String.empty_append (s := t)] at htext
  rcases h.apart hs ht htext with ⟨-, heq⟩ | ⟨y, hempty⟩
  · exact heq
  · exact absurd (String.append_eq_empty_iff.1 hempty.symm).1 (h.ne_empty hs)

end StandApart

end PartKind

/-- The text of parts: each mark and its value. -/
def textOf : List Part → String
  | [] => ""
  | p :: parts => p.mark ++ (p.value ++ textOf parts)

/-- A value holds a mark of the part behind it, after a value of its own. -/
inductive HoldsNext : List PartKind → List Part → Prop
  | here {k l : PartKind} {kinds : List PartKind} {p q : Part} {parts : List Part} {x m y : String}
    (hvalue : p.value = x ++ m ++ y) (hmark : l.IsMark m) (hx : k.Admits x) :
    HoldsNext (k :: l :: kinds) (p :: q :: parts)
  | there {k : PartKind} {kinds : List PartKind} {p : Part} {parts : List Part}
    (h : HoldsNext kinds parts) : HoldsNext (k :: kinds) (p :: parts)

/-- A value holds a mark of its own part, before a value of its own. -/
inductive HoldsOwn : List PartKind → List Part → Prop
  | here {k : PartKind} {kinds : List PartKind} {p : Part} {parts : List Part} {x m y : String}
    (hvalue : p.value = x ++ m ++ y) (hmark : k.IsMark m) (hy : k.Admits y) :
    HoldsOwn (k :: kinds) (p :: parts)
  | there {k : PartKind} {kinds : List PartKind} {p : Part} {parts : List Part}
    (h : HoldsOwn kinds parts) : HoldsOwn (k :: kinds) (p :: parts)

theorem holdsNext_cons_cons {k l : PartKind} {kinds : List PartKind} {p q : Part}
    {parts : List Part} : HoldsNext (k :: l :: kinds) (p :: q :: parts) ↔
      (∃ x m y, p.value = x ++ m ++ y ∧ l.IsMark m ∧ k.Admits x) ∨
        HoldsNext (l :: kinds) (q :: parts) := by
  constructor
  · rintro (⟨hvalue, hmark, hx⟩ | h)
    · exact .inl ⟨_, _, _, hvalue, hmark, hx⟩
    · exact .inr h
  · rintro (⟨x, m, y, hvalue, hmark, hx⟩ | h)
    · exact .here hvalue hmark hx
    · exact .there h

theorem not_holdsNext_singleton {k : PartKind} {p : Part} : ¬HoldsNext [k] [p] := by
  rintro (_ | h)
  cases h

theorem holdsOwn_cons {k : PartKind} {kinds : List PartKind} {p : Part} {parts : List Part} :
    HoldsOwn (k :: kinds) (p :: parts) ↔
      (∃ x m y, p.value = x ++ m ++ y ∧ k.IsMark m ∧ k.Admits y) ∨ HoldsOwn kinds parts := by
  constructor
  · rintro (⟨hvalue, hmark, hy⟩ | h)
    · exact .inl ⟨_, _, _, hvalue, hmark, hy⟩
    · exact .inr h
  · rintro (⟨x, m, y, hvalue, hmark, hy⟩ | h)
    · exact .here hvalue hmark hy
    · exact .there h

theorem not_holdsOwn_nil : ¬HoldsOwn [] [] :=
  nofun

/-! ## Two ways to read a text -/

/-- Of two beginnings of a text one continues the other. -/
theorem append_cases {a b c d : String} (h : a ++ b = c ++ d) :
    (∃ z, c = a ++ z ∧ b = z ++ d) ∨ ∃ z, a = c ++ z ∧ d = z ++ b := by
  rw [← String.toList_inj, String.toList_append, String.toList_append,
    List.append_eq_append_iff] at h
  refine h.imp ?_ ?_ <;>
    · rintro ⟨z, hfront, hback⟩
      refine ⟨String.ofList z, ?_, ?_⟩ <;>
        rw [← String.toList_inj, String.toList_append, String.toList_ofList] <;> assumption

section Readings

variable {k : PartKind} {kinds : List PartKind} {a b : Part} {p q : List Part} {z : String}

/-- If the marks of one reading begin later than those of another, then a value of the other holds
a mark of its own part. -/
theorem holdsOwn_of_later (hp : List.Forall₂ PartKind.Fits kinds p)
    (hq : List.Forall₂ PartKind.Fits kinds q) (hapart : ∀ k ∈ kinds, k.StandApart) (hz : z ≠ "")
    (h : textOf p = z ++ textOf q) : HoldsOwn kinds p := by
  induction hp generalizing q z with
  | nil => exact absurd (String.append_eq_empty_iff.1 h.symm).1 hz
  | @cons k a kinds p ha _ ih =>
    obtain ⟨b, q, hb, hq', rfl⟩ := List.forall₂_cons_left_iff.1 hq
    rw [List.forall_mem_cons] at hapart
    -- The later mark stands behind the whole of the earlier one.
    obtain ⟨y, rfl⟩ := hapart.1.exists_between ha.mark hb.mark hz h
    have hrest : a.value ++ textOf p = y ++ b.mark ++ b.value ++ textOf q := by
      simpa only [textOf, String.append_assoc, String.append_right_inj] using h
    rcases append_cases hrest with ⟨z', hz', hafter⟩ | ⟨rest, hvalue, -⟩
    · by_cases hempty : z' = ""
      · refine .here (x := y) (m := b.mark) (y := b.value) ?_ hb.mark hb.value
        rw [hz', hempty, String.append_empty]
      · exact .there (ih hq' hapart.2 hempty hafter)
    · refine .here (x := y) (m := b.mark) (y := b.value ++ rest) ?_ hb.mark
        (hb.value.append_right rest)
      rw [hvalue, String.append_assoc]

/-- If the first value of one reading ends before that of another, then the other holds the mark
behind it, and a value of the one a mark of its own part. -/
theorem holds_of_shorter (ha : k.Admits a.value) (hp : List.Forall₂ PartKind.Fits kinds p)
    (hq : List.Forall₂ PartKind.Fits kinds q) (hapart : ∀ k ∈ kinds, k.StandApart) (hz : z ≠ "")
    (hvalue : b.value = a.value ++ z) (h : textOf p = z ++ textOf q) :
    HoldsNext (k :: kinds) (b :: q) ∧ HoldsOwn kinds p := by
  refine ⟨?_, holdsOwn_of_later hp hq hapart hz h⟩
  cases hp with
  | nil => exact absurd (String.append_eq_empty_iff.1 h.symm).1 hz
  | @cons l c kinds p hc _ =>
    obtain ⟨d, q, hd, -, rfl⟩ := List.forall₂_cons_left_iff.1 hq
    obtain ⟨y, rfl⟩ := (hapart l List.mem_cons_self).exists_between hc.mark hd.mark hz h
    refine .here (x := a.value) (m := c.mark) (y := y) ?_ hc.mark ha
    rw [hvalue, String.append_assoc]

/-- Readings of one text whose first values differ. -/
theorem holds_of_ne (ha : k.Admits a.value) (hb : k.Admits b.value)
    (hp : List.Forall₂ PartKind.Fits kinds p) (hq : List.Forall₂ PartKind.Fits kinds q)
    (hapart : ∀ k ∈ kinds, k.StandApart) (hne : a.value ≠ b.value)
    (h : a.value ++ textOf p = b.value ++ textOf q) :
    HoldsNext (k :: kinds) (a :: p) ∧ HoldsOwn kinds q ∨
      HoldsNext (k :: kinds) (b :: q) ∧ HoldsOwn kinds p := by
  rcases append_cases h with ⟨z, hvalue, htext⟩ | ⟨z, hvalue, htext⟩
  · have hz : z ≠ "" := by
      rintro rfl
      exact hne (by rw [hvalue, String.append_empty])
    exact .inr (holds_of_shorter ha hp hq hapart hz hvalue htext)
  · have hz : z ≠ "" := by
      rintro rfl
      exact hne (by rw [hvalue, String.append_empty])
    exact .inl (holds_of_shorter hb hq hp hapart hz hvalue htext)

/-- Two readings of a text that begin with the same mark are the same, or one has a value that holds
the mark behind it and the other a value that holds a mark of its own part. -/
theorem parts_eq_or (hmark : a.mark = b.mark) (ha : k.Admits a.value) (hb : k.Admits b.value)
    (hp : List.Forall₂ PartKind.Fits kinds p) (hq : List.Forall₂ PartKind.Fits kinds q)
    (hapart : ∀ k ∈ kinds, k.StandApart) (h : textOf (a :: p) = textOf (b :: q)) :
    a :: p = b :: q ∨
      HoldsNext (k :: kinds) (a :: p) ∧ HoldsOwn kinds q ∨
      HoldsNext (k :: kinds) (b :: q) ∧ HoldsOwn kinds p := by
  rw [textOf, textOf, hmark, String.append_right_inj] at h
  induction hp generalizing k a b q with
  | nil =>
    obtain rfl := List.forall₂_nil_left_iff.1 hq
    have hvalue : a.value = b.value := by simpa [textOf] using h
    exact .inl (by rw [Part.ext hmark hvalue])
  | @cons l c kinds p hc hp ih =>
    by_cases hvalue : a.value = b.value
    swap
    · exact .inr (holds_of_ne ha hb (.cons hc hp) hq hapart hvalue h)
    obtain rfl : a = b := Part.ext hmark hvalue
    obtain ⟨d, q, hd, hq', rfl⟩ := List.forall₂_cons_left_iff.1 hq
    rw [List.forall_mem_cons] at hapart
    rw [String.append_right_inj, textOf, textOf] at h
    have hmark' := hapart.1.mark_eq hc.mark hd.mark h
    rw [hmark', String.append_right_inj] at h
    rcases ih hmark' hc.value hd.value hq' hapart.2 h with heq | ⟨hnext, hown⟩ | ⟨hnext, hown⟩
    · exact .inl (by rw [heq])
    · exact .inr (.inl ⟨.there hnext, .there hown⟩)
    · exact .inr (.inr ⟨.there hnext, .there hown⟩)

/-! ## Another way to read a text -/

theorem eq_empty_of_append_eq {s m t : String} (h : s ++ (m ++ t) = s) : m = "" := by
  have hempty : m ++ t = "" := by simpa using h
  exact (String.append_eq_empty_iff.1 hempty).1

/-- If a value holds a mark of the part behind it, it can end before that mark. -/
theorem exists_other_of_holdsNext (hp : List.Forall₂ PartKind.Fits kinds p)
    (hapart : ∀ k ∈ kinds.tail, k.StandApart) (h : HoldsNext kinds p) :
    ∃ q, List.Forall₂ PartKind.Fits kinds q ∧ textOf q = textOf p ∧ q ≠ p := by
  induction h with
  | @here k l kinds a c p x m y hvalue hmark hx =>
    obtain ⟨ha, hrest⟩ := List.forall₂_cons.1 hp
    obtain ⟨hc, hp⟩ := List.forall₂_cons.1 hrest
    refine ⟨⟨a.mark, x⟩ :: ⟨m, y ++ c.mark ++ c.value⟩ :: p,
      .cons ⟨ha.mark, hx⟩ (.cons ⟨hmark, hc.value.append_left _⟩ hp), ?_, fun heq => ?_⟩
    · simp only [textOf, hvalue, String.append_assoc]
    · have hself : x ++ (m ++ y) = x := by
        rw [← String.append_assoc, ← hvalue, ← (List.cons.inj heq).1]
      exact (hapart l List.mem_cons_self).ne_empty hmark (eq_empty_of_append_eq hself)
  | @there k kinds a p _ ih =>
    obtain ⟨ha, hp⟩ := List.forall₂_cons.1 hp
    obtain ⟨q, hq, htext, hne⟩ := ih hp fun k hk => hapart k (List.mem_of_mem_tail hk)
    refine ⟨a :: q, .cons ha hq, by rw [textOf, textOf, htext], ?_⟩
    exact fun heq => hne (List.cons.inj heq).2

/-- If a value holds a mark of its own part, it can begin behind that mark. -/
theorem exists_other_of_holdsOwn (ha : k.Fits a) (hp : List.Forall₂ PartKind.Fits kinds p)
    (hapart : ∀ k ∈ kinds, k.StandApart) (h : HoldsOwn kinds p) :
    ∃ q, List.Forall₂ PartKind.Fits (k :: kinds) q ∧ textOf q = textOf (a :: p) ∧ q ≠ a :: p := by
  induction h generalizing k a with
  | @here l kinds c p x m y hvalue hmark hy =>
    obtain ⟨hc, hp⟩ := List.forall₂_cons.1 hp
    refine ⟨⟨a.mark, a.value ++ (c.mark ++ x)⟩ :: ⟨m, y⟩ :: p,
      .cons ⟨ha.mark, ha.value.append_right _⟩ (.cons ⟨hmark, hy⟩ hp), ?_, fun heq => ?_⟩
    · simp only [textOf, hvalue, String.append_assoc]
    · have hself : a.value ++ (c.mark ++ x) = a.value :=
        congrArg Part.value (List.cons.inj heq).1
      exact (hapart l List.mem_cons_self).ne_empty hc.mark (eq_empty_of_append_eq hself)
  | @there l kinds c p _ ih =>
    obtain ⟨hc, hp⟩ := List.forall₂_cons.1 hp
    rw [List.forall_mem_cons] at hapart
    obtain ⟨q, hq, htext, hne⟩ := ih hc hp hapart.2
    refine ⟨a :: q, .cons ha hq, by simp only [textOf, htext], ?_⟩
    exact fun heq => hne (List.cons.inj heq).2

end Readings

section Texts

variable {w : String} {required : Bool} {kinds : List PartKind} {p q : List Part}

/-- Two readings of a text that begins with a word are the same, or one has a value that holds the
mark behind it and the other a value that holds a mark of its own part. -/
theorem readings_eq_or (hp : List.Forall₂ PartKind.Fits (.word w required :: kinds) p)
    (hq : List.Forall₂ PartKind.Fits (.word w required :: kinds) q)
    (hapart : ∀ k ∈ kinds, k.StandApart) (h : textOf p = textOf q) :
    p = q ∨ HoldsNext (.word w required :: kinds) p ∧ HoldsOwn kinds q.tail ∨
      HoldsNext (.word w required :: kinds) q ∧ HoldsOwn kinds p.tail := by
  obtain ⟨a, p, ha, hp', rfl⟩ := List.forall₂_cons_left_iff.1 hp
  obtain ⟨b, q, hb, hq', rfl⟩ := List.forall₂_cons_left_iff.1 hq
  have hmark : a.mark = b.mark := ha.mark.trans hb.mark.symm
  exact parts_eq_or hmark ha.value hb.value hp' hq' hapart h

/-- If a value holds the mark behind it or a mark of its own part, then there is another reading. -/
theorem exists_other_reading (hp : List.Forall₂ PartKind.Fits (.word w required :: kinds) p)
    (hapart : ∀ k ∈ kinds, k.StandApart)
    (h : HoldsNext (.word w required :: kinds) p ∨ HoldsOwn kinds p.tail) :
    ∃ q, List.Forall₂ PartKind.Fits (.word w required :: kinds) q ∧ textOf q = textOf p ∧
      q ≠ p := by
  rcases h with hnext | hown
  · exact exists_other_of_holdsNext hp hapart hnext
  · obtain ⟨a, p, ha, hp', rfl⟩ := List.forall₂_cons_left_iff.1 hp
    exact exists_other_of_holdsOwn ha hp' hapart hown

end Texts

/-! ## Words that stand apart -/

/-- A word stands apart from itself if none of its proper ends begins it. -/
theorem PartKind.standApart_word {w : String} (required : Bool) (hw : w ≠ "")
    (hends : ∀ z ∈ w.toList.tail.tails, z = [] ∨ ¬z <+: w.toList) :
    (word w required).StandApart where
  ne_empty := by
    rintro s rfl
    exact hw
  apart := by
    rintro s t between after rest rfl rfl h
    rw [String.append_assoc] at h
    rcases append_cases h with ⟨z, hbetween, -⟩ | ⟨z, hword, htext⟩
    · exact .inr ⟨z, hbetween⟩
    by_cases hempty : between = ""
    · exact .inl ⟨hempty, rfl⟩
    have hlist : t.toList = between.toList ++ z.toList := by
      rw [← String.toList_append, ← hword]
    have hend : z.toList ∈ t.toList.tail.tails := by
      obtain ⟨c, cs, hcs⟩ := List.exists_cons_of_ne_nil (l := between.toList) (by simpa using hempty)
      rw [List.mem_tails, hlist, hcs, List.cons_append, List.tail_cons]
      exact List.suffix_append cs z.toList
    have hbegin : z.toList <+: t.toList := by
      have hprefix : z.toList <+: t.toList ++ rest.toList := by
        rw [← String.toList_append, htext, String.toList_append]
        exact List.prefix_append _ _
      exact List.prefix_of_prefix_length_le hprefix (List.prefix_append _ _) (by simp [hlist])
    rcases hends z.toList hend with hz | hz
    · have hz' : z = "" := by simpa using hz
      exact .inr ⟨"", by rw [hword, hz', String.append_empty, String.append_empty]⟩
    · exact absurd hbegin hz

end StructGen
