import Mathlib.Data.List.Basic
import StructGen.Proofs.Keyed
import StructGen.Proofs.Numerals
/-!
# What readers report

A shape says what type is declared at each position of a value. A position is at fault if its value is
missing though it has to be there, or is not accepted by its type (`Shape.Fault`), and positions come
in the order of declaration (`Shape.Before`). A reader settles a value (`Settles`) if it reports the
positions at fault, in order, and accepts the value if there is none. Readers of single values settle
what they read; lists and records of readers that do so do so too, because the issues of a part are
seen from outside behind one step, and different parts have different steps.
-/
namespace StructGen

/-! ## Types -/

/-- The types of single values. -/
inductive Scalar
  | any
  | text
  | bool
  | int
  | choice (names : List String)

/-- The values that are taken for a value of a type. Bytes are taken for the text they stand for. -/
inductive Scalar.Accepts : Scalar → Value → Prop
  | any (v : Value) : Accepts any v
  | text (s : String) : Accepts text (.text s)
  | bool (b : Bool) : Accepts bool (.bool b)
  | bit {n : Int} (h : n = 0 ∨ n = 1) : Accepts bool (.int n)
  | binaryBit {x : Number.Binary64} {n : Int} (hx : x.toInt? = some n) (h : n = 0 ∨ n = 1) :
    Accepts bool (.float x)
  | decimalBit {d : Number.Decimal} {n : Int} (hd : d.toBinary64.toInt? = some n)
    (h : n = 0 ∨ n = 1) : Accepts bool (.decimal d)
  | word {s : String} (h : s.map Char.toLower ∈ ReadAs.boolWords.map Prod.fst) :
    Accepts bool (.text s)
  | int (n : Int) : Accepts int (.int n)
  | truth (b : Bool) : Accepts int (.bool b)
  | binary {x : Number.Binary64} {n : Int} (hx : x.toInt? = some n)
    (h : n.natAbs < ReadAs.wordBound) : Accepts int (.float x)
  | decimal {negative : Bool} {c : Nat} {e n : Int}
    (hd : (Number.Decimal.finite negative c e).toInt? = some n) (he : e ≤ ReadAs.intDigits) :
    Accepts int (.decimal (.finite negative c e))
  | numeral {s : String} {n : Int} (hs : ReadAs.ShowsInt s n)
    (h : n.natAbs < Nat.pow 10 ReadAs.intDigits) : Accepts int (.text s)
  | name {names : List String} {s : String} (h : s ∈ names) : Accepts (choice names) (.text s)
  | bytes {t : Scalar} {bs : List UInt8} {s : String} (hs : ReadAs.textOfBytes? bs = some s)
    (h : Accepts t (.text s)) : Accepts t (.bytes bs)

/-- A field as it is declared. -/
structure FieldOf (τ : Type) where
  name : String
  type : τ
  required : Bool

/-- The types of fields and records. -/
inductive Shape
  | scalar (s : Scalar)
  | orNull (t : Shape)
  | list (t : Shape)
  | record (fields : List (FieldOf Shape))

namespace Shape

/-- A position of a value is at fault: what stands there is not accepted, or nothing stands there
though it has to. -/
inductive Fault : Shape → Value → List Step → Prop
  | scalar {s : Scalar} {v : Value} (h : ¬s.Accepts v) : Fault (.scalar s) v []
  | orNull {t : Shape} {v : Value} {p : List Step} (hv : v ≠ .null) (h : Fault t v p) :
    Fault (.orNull t) v p
  | notList {t : Shape} {v : Value} (h : ∀ vs, v ≠ .list vs) : Fault (.list t) v []
  | item {t : Shape} {vs : List Value} {i : Nat} {v : Value} {p : List Step}
    (hv : vs[i]? = some v) (h : Fault t v p) : Fault (.list t) (.list vs) (.index i :: p)
  | notRecord {fields : List (FieldOf Shape)} {v : Value} (h : ∀ entries, v ≠ .dict entries) :
    Fault (.record fields) v []
  | missing {fields : List (FieldOf Shape)} {entries : Keyed Value} {f : FieldOf Shape}
    (hf : f ∈ fields) (hrequired : f.required = true) (h : entries.get? f.name = none) :
    Fault (.record fields) (.dict entries) [.field f.name]
  | field {fields : List (FieldOf Shape)} {entries : Keyed Value} {f : FieldOf Shape} {v : Value}
    {p : List Step} (hf : f ∈ fields) (hv : entries.get? f.name = some v) (h : Fault f.type v p) :
    Fault (.record fields) (.dict entries) (.field f.name :: p)

/-- A position comes before another one: items by their numbers, fields as they are declared, and
what is in one of them as it is there. -/
inductive Before : Shape → List Step → List Step → Prop
  | orNull {t : Shape} {p q : List Step} (h : Before t p q) : Before (.orNull t) p q
  | items {t : Shape} {i j : Nat} {p q : List Step} (h : i < j) :
    Before (.list t) (.index i :: p) (.index j :: q)
  | item {t : Shape} {i : Nat} {p q : List Step} (h : Before t p q) :
    Before (.list t) (.index i :: p) (.index i :: q)
  | fields {fields : List (FieldOf Shape)} {f g : FieldOf Shape} {p q : List Step}
    (h : [f, g].Sublist fields) (hne : f.name ≠ g.name) :
    Before (.record fields) (.field f.name :: p) (.field g.name :: q)
  | field {fields : List (FieldOf Shape)} {f : FieldOf Shape} {p q : List Step} (hf : f ∈ fields)
    (h : Before f.type p q) : Before (.record fields) (.field f.name :: p) (.field f.name :: q)

theorem Before.ne {t : Shape} {p q : List Step} (h : Before t p q) : p ≠ q := by
  induction h with
  | orNull _ ih => exact ih
  | items h => simp [Nat.ne_of_lt h]
  | item _ ih => simpa using ih
  | fields _ hne => simp [hne]
  | field _ _ ih => simpa using ih

end Shape

/-! ## Results -/

namespace Checked

variable {α β : Type}

/-- The positions that a result reports; none if it is accepted. -/
def paths : Checked α → List (List Step)
  | accepted _ => []
  | refused issues => issues.map Issue.path

@[simp] theorem paths_accepted (a : α) : (accepted a).paths = [] := rfl

@[simp] theorem paths_map (f : α → β) (c : Checked α) : (f <$> c).paths = c.paths := by
  cases c <;> rfl

@[simp] theorem paths_seq (c : Checked (α → β)) (c' : Checked α) :
    (c <*> c').paths = c.paths ++ c'.paths := by
  cases c <;> cases c' <;> first | rfl | exact (List.append_nil _).symm | exact List.map_append

@[simp] theorem paths_within (step : Step) (c : Checked α) :
    (c.within step).paths = c.paths.map (step :: ·) := by
  cases c with
  | accepted a => rfl
  | refused issues => simp [within, paths, Issue.within]

/-- A refusal has a reason. -/
def HasReason (c : Checked α) : Prop :=
  c ≠ refused []

theorem HasReason.map {c : Checked α} (h : c.HasReason) (f : α → β) : (f <$> c).HasReason := by
  cases c with
  | accepted a => nofun
  | refused issues => exact fun heq => h (by cases heq; rfl)

theorem HasReason.seq {c : Checked (α → β)} {c' : Checked α} (h : c.HasReason) (h' : c'.HasReason) :
    (c <*> c').HasReason := by
  cases c with
  | accepted f =>
    cases c' with
    | accepted a => nofun
    | refused issues => exact fun heq => h' (by cases heq; rfl)
  | refused issues =>
    cases c' with
    | accepted a => exact fun heq => h (by cases heq; rfl)
    | refused issues' =>
      intro heq
      have hnil : issues ++ issues' = [] := by injection heq
      exact h (by rw [(List.append_eq_nil_iff.1 hnil).1])

theorem HasReason.within {c : Checked α} (h : c.HasReason) (step : Step) :
    (c.within step).HasReason := by
  cases c with
  | accepted a => nofun
  | refused issues =>
    intro heq
    have hnil : issues.map (Issue.within step) = [] := by injection heq
    exact h (by rw [List.map_eq_nil_iff.1 hnil])

end Checked

/-- What is read from a value of a type is as it has to be: the positions at fault are reported, in
their order, and the value is refused only for one of them. -/
structure Settles {α : Type} (t : Shape) (v : Value) (c : Checked α) : Prop where
  mem_iff : ∀ p, p ∈ c.paths ↔ t.Fault v p
  ordered : c.paths.Pairwise t.Before
  hasReason : c.HasReason

namespace Settles

variable {α : Type} {t : Shape} {v : Value}

theorem accepted (h : ∀ p, ¬t.Fault v p) (a : α) : Settles t v (.accepted a) where
  mem_iff p := ⟨nofun, fun hp => absurd hp (h p)⟩
  ordered := .nil
  hasReason := nofun

/-- A value with one fault is refused for it alone. -/
theorem refused {i : Issue} (h : ∀ p, t.Fault v p ↔ p = i.path) :
    Settles t v (.refused [i] : Checked α) where
  mem_iff p := List.mem_singleton.trans (h p).symm
  ordered := List.pairwise_singleton _ _
  hasReason := nofun

end Settles

/-- A reader of a type settles every value. -/
def Reads {α : Type} (t : Shape) (r : ReadAs α) : Prop :=
  ∀ v, Settles t v (r v)

/-! ## Single values -/

/-- A result that decides whether something holds, with one reason at most. -/
inductive Decides {α : Type} : Checked α → Prop → Prop
  | accepts {P : Prop} (a : α) (h : P) : Decides (.accepted a) P
  | refuses {P : Prop} (kind : IssueKind) (h : ¬P) : Decides (.refuse kind) P

namespace Decides

variable {α : Type} {c : Checked α} {P Q : Prop}

theorem congr (h : Decides c P) (hPQ : P ↔ Q) : Decides c Q :=
  propext hPQ ▸ h

theorem settles {s : Scalar} {v : Value} (h : Decides c (s.Accepts v)) : Settles (.scalar s) v c := by
  cases h with
  | accepts a h =>
    refine .accepted (fun p hp => ?_) a
    cases hp with
    | scalar hno => exact hno h
  | refuses kind h =>
    refine .refused fun p => ⟨fun | .scalar _ => rfl, ?_⟩
    rintro rfl
    exact .scalar h

end Decides

theorem Scalar.accepts_bytes_iff {t : Scalar} (ht : t ≠ .any) {bs : List UInt8} :
    t.Accepts (.bytes bs) ↔ ∃ s, ReadAs.textOfBytes? bs = some s ∧ t.Accepts (.text s) := by
  constructor
  · intro h
    cases h with
    | any => exact absurd rfl ht
    | bytes hs h => exact ⟨_, hs, h⟩
  · rintro ⟨s, hs, h⟩
    exact .bytes hs h

namespace ReadAs

theorem decides_decoded {α : Type} {t : Scalar} {r : String → Checked α}
    (h : ∀ s, Decides (r s) (t.Accepts (.text s))) (ht : t ≠ .any) (undecodable : IssueKind)
    (bs : List UInt8) : Decides (decoded undecodable r bs) (t.Accepts (.bytes bs)) := by
  rw [Scalar.accepts_bytes_iff ht]
  unfold decoded
  cases textOfBytes? bs with
  | some s => exact (h s).congr (by simp)
  | none => exact .refuses _ nofun

theorem reads_any : Reads (.scalar .any) any :=
  fun v => (Decides.accepts v (.any v)).settles

theorem reads_text : Reads (.scalar .text) text := by
  intro v
  refine Decides.settles ?_
  cases v with
  | text s => exact .accepts s (.text s)
  | bytes bs => exact decides_decoded (fun s => .accepts s (.text s)) nofun _ bs
  | _ => exact .refuses _ nofun

theorem decides_boolOfText (s : String) :
    Decides (boolOfText s) (Scalar.bool.Accepts (.text s)) := by
  unfold boolOfText
  cases hs : boolWords.lookup (s.map Char.toLower) with
  | some b => exact .accepts b (.word (Keyed.keys_of_mem (Keyed.mem_of_get? hs)))
  | none => exact .refuses _ fun | .word h => Keyed.get?_eq_none.1 hs h

theorem decides_boolOfInt (n : Int) : Decides (boolOfInt n) (n = 0 ∨ n = 1) := by
  unfold boolOfInt
  split
  · next h => exact .accepts _ (.inl h)
  split
  · next h => exact .accepts _ (.inr h)
  · next h0 h1 => exact .refuses _ (not_or.2 ⟨h0, h1⟩)

theorem decides_boolOfBinary (x : Number.Binary64) :
    Decides (boolOfBinary x) (∃ n, x.toInt? = some n ∧ (n = 0 ∨ n = 1)) := by
  unfold boolOfBinary
  cases hx : x.toInt? with
  | none => exact .refuses _ nofun
  | some n =>
    simp only [Option.some.injEq, exists_eq_left']
    split
    · exact decides_boolOfInt n
    · next hbound =>
      refine .refuses _ ?_
      rintro (rfl | rfl) <;> exact hbound (by decide)

theorem reads_bool : Reads (.scalar .bool) bool := by
  intro v
  refine Decides.settles ?_
  cases v with
  | bool b => exact .accepts b (.bool b)
  | int n =>
    simp only [bool]
    split
    · exact (decides_boolOfInt n).congr ⟨Scalar.Accepts.bit, fun | .bit h => h⟩
    · next hbound =>
      refine .refuses _ fun h => ?_
      cases h with
      | bit h => rcases h with rfl | rfl <;> exact hbound (by decide)
  | float x =>
    exact (decides_boolOfBinary x).congr
      ⟨fun ⟨_, hx, h⟩ => .binaryBit hx h, fun | .binaryBit hx h => ⟨_, hx, h⟩⟩
  | decimal d =>
    exact (decides_boolOfBinary d.toBinary64).congr
      ⟨fun ⟨_, hd, h⟩ => .decimalBit hd h, fun | .decimalBit hd h => ⟨_, hd, h⟩⟩
  | text s => exact decides_boolOfText s
  | bytes bs => exact decides_decoded decides_boolOfText nofun _ bs
  | _ => exact .refuses _ nofun

theorem decides_intOfText (s : String) : Decides (intOfText s) (Scalar.int.Accepts (.text s)) := by
  unfold intOfText
  cases hs : intOfText? s with
  | none =>
    refine .refuses _ fun h => ?_
    cases h with
    | numeral hn _ =>
      rw [intOfText?_eq_some.2 hn] at hs
      cases hs
  | some n =>
    simp only
    split
    · next hlong =>
      refine .refuses _ fun h => ?_
      cases h with
      | numeral hn h =>
        rw [intOfText?_eq_some.2 hn, Option.some.injEq] at hs
        exact absurd (hs ▸ h) (Nat.not_lt.2 hlong)
    · next hshort =>
      exact .accepts n (.numeral (intOfText?_eq_some.1 hs) (Nat.not_le.1 hshort))

theorem decides_intOfBinary (x : Number.Binary64) :
    Decides (intOfBinary x) (∃ n, x.toInt? = some n ∧ n.natAbs < wordBound) := by
  unfold intOfBinary
  cases x with
  | nan => exact .refuses _ nofun
  | infinite negative => exact .refuses _ nofun
  | finite negative m e =>
    simp only
    cases hx : (Number.Binary64.finite negative m e).toInt? with
    | none => exact .refuses _ nofun
    | some n =>
      simp only [Option.some.injEq, exists_eq_left']
      split
      · next h => exact .accepts n h
      · next h => exact .refuses _ h

theorem decides_intOfDecimal (d : Number.Decimal) :
    Decides (intOfDecimal d) (Scalar.int.Accepts (.decimal d)) := by
  unfold intOfDecimal
  cases d with
  | nan negative signalling payload => exact .refuses _ nofun
  | infinite negative => exact .refuses _ nofun
  | finite negative c e =>
    simp only
    split
    · next hlong => exact .refuses _ fun | .decimal _ he => absurd he (Int.not_le.2 hlong)
    · next hshort =>
      cases hd : (Number.Decimal.finite negative c e).toInt? with
      | none =>
        refine .refuses _ fun h => ?_
        cases h with
        | decimal hn _ => rw [hd] at hn; cases hn
      | some n => exact .accepts n (.decimal hd (Int.not_lt.1 hshort))

theorem reads_int : Reads (.scalar .int) int := by
  intro v
  refine Decides.settles ?_
  cases v with
  | int n => exact .accepts n (.int n)
  | bool b => exact .accepts _ (.truth b)
  | float x =>
    exact (decides_intOfBinary x).congr
      ⟨fun ⟨_, hx, h⟩ => .binary hx h, fun | .binary hx h => ⟨_, hx, h⟩⟩
  | decimal d => exact decides_intOfDecimal d
  | text s => exact decides_intOfText s
  | bytes bs => exact decides_decoded decides_intOfText nofun _ bs
  | _ => exact .refuses _ nofun

section
variable {α : Type} (choices : List α) (name : α → String)

theorem decides_choiceOfText (s : String) :
    Decides (choiceOfText choices name s) ((Scalar.choice (choices.map name)).Accepts (.text s)) := by
  unfold choiceOfText
  cases hs : choices.find? (name · = s) with
  | some a =>
    have hname : name a = s := by simpa using List.find?_some hs
    exact .accepts a (.name (hname ▸ List.mem_map_of_mem (List.mem_of_find?_eq_some hs)))
  | none =>
    refine .refuses _ fun h => ?_
    cases h with
    | name h =>
      obtain ⟨a, ha, rfl⟩ := List.mem_map.1 h
      exact absurd (List.find?_eq_none.1 hs a ha) (by simp)

theorem reads_choice : Reads (.scalar (.choice (choices.map name))) (choice choices name) := by
  intro v
  refine Decides.settles ?_
  cases v with
  | text s => exact decides_choiceOfText choices name s
  | bytes bs => exact decides_decoded (decides_choiceOfText choices name) nofun _ bs
  | _ => exact .refuses _ nofun

end

end ReadAs

/-! ## Values that may be null -/

section
variable {α β : Type} {t : Shape} {v : Value} {c : Checked α}

theorem Settles.map (h : Settles t v c) (f : α → β) : Settles t v (f <$> c) where
  mem_iff := by simpa using h.mem_iff
  ordered := by simpa using h.ordered
  hasReason := h.hasReason.map f

theorem Settles.orNull (h : Settles t v c) (hv : v ≠ .null) : Settles (.orNull t) v c where
  mem_iff p := (h.mem_iff p).trans ⟨.orNull hv, fun | .orNull _ hp => hp⟩
  ordered := h.ordered.imp .orNull
  hasReason := h.hasReason

theorem ReadAs.reads_orNull {r : ReadAs α} (h : Reads t r) : Reads (.orNull t) (orNull r) := by
  intro v
  by_cases hv : v = .null
  · subst hv
    refine .accepted (fun p hp => ?_) none
    cases hp with
    | orNull hv _ => exact hv rfl
  · have hsome : orNull r v = some <$> r v := by cases v <;> first | exact absurd rfl hv | rfl
    rw [hsome]
    exact ((h v).map some).orNull hv

end

/-! ## Lists -/

namespace ReadAs

variable {α : Type} {t : Shape} {r : ReadAs α}

theorem mem_paths_items {start : Nat} {vs : List Value} {p : List Step} :
    p ∈ (items r start vs).paths ↔
      ∃ i v q, vs[i]? = some v ∧ q ∈ (r v).paths ∧ p = .index (start + i) :: q := by
  induction vs generalizing start with
  | nil => simp [items]
  | cons v vs ih =>
    rw [items, Checked.paths_seq, Checked.paths_map, Checked.paths_within, List.mem_append,
      List.mem_map, ih]
    constructor
    · rintro (⟨q, hq, rfl⟩ | ⟨i, w, q, hw, hq, rfl⟩)
      · exact ⟨0, v, q, rfl, hq, rfl⟩
      · exact ⟨i + 1, w, q, hw, hq, by rw [Nat.add_assoc, Nat.add_comm 1 i]⟩
    · rintro ⟨i, w, q, hw, hq, rfl⟩
      cases i with
      | zero =>
        obtain rfl := Option.some.inj hw
        exact .inl ⟨q, hq, rfl⟩
      | succ i => exact .inr ⟨i, w, q, hw, hq, by rw [Nat.add_assoc, Nat.add_comm 1 i]⟩

theorem ordered_items (h : Reads t r) (start : Nat) (vs : List Value) :
    (items r start vs).paths.Pairwise (Shape.list t).Before := by
  induction vs generalizing start with
  | nil => exact .nil
  | cons v vs ih =>
    rw [items, Checked.paths_seq, Checked.paths_map, Checked.paths_within, List.pairwise_append]
    refine ⟨(h v).ordered.map _ fun _ _ => .item, ih (start + 1), fun p hp q hq => ?_⟩
    obtain ⟨p, -, rfl⟩ := List.mem_map.1 hp
    obtain ⟨i, _, q, -, -, rfl⟩ := mem_paths_items.1 hq
    exact .items (by omega)

theorem hasReason_items (h : Reads t r) (start : Nat) (vs : List Value) :
    (items r start vs).HasReason := by
  induction vs generalizing start with
  | nil => nofun
  | cons v vs ih => exact (((h v).hasReason.within _).map _).seq (ih (start + 1))

theorem reads_list (h : Reads t r) : Reads (.list t) (list r) := by
  intro v
  by_cases hv : ∃ vs, v = .list vs
  · obtain ⟨vs, rfl⟩ := hv
    refine ⟨fun p => ?_, ordered_items h 0 vs, hasReason_items h 0 vs⟩
    rw [list, mem_paths_items]
    constructor
    · rintro ⟨i, v, q, hv, hq, rfl⟩
      rw [Nat.zero_add]
      exact .item hv (((h v).mem_iff q).1 hq)
    · intro hp
      cases hp with
      | notList hno => exact absurd rfl (hno vs)
      | item hv hq => exact ⟨_, _, _, hv, ((h _).mem_iff _).2 hq, by rw [Nat.zero_add]⟩
  · have hrefused : list r v = .refuse .listExpected := by
      cases v <;> first | rfl | exact absurd ⟨_, rfl⟩ hv
    rw [hrefused]
    refine .refused fun p => ⟨fun hp => ?_, ?_⟩
    · cases hp with
      | notList => rfl
      | item => exact absurd ⟨_, rfl⟩ hv
    · rintro rfl
      exact .notList (not_exists.1 hv)

end ReadAs

/-! ## Records -/

namespace Shape

variable {fs gs : List (FieldOf Shape)} {entries : Keyed Value} {p q : List Step}

theorem fault_append : Fault (.record (fs ++ gs)) (.dict entries) p ↔
    Fault (.record fs) (.dict entries) p ∨ Fault (.record gs) (.dict entries) p := by
  constructor
  · intro h
    cases h with
    | notRecord hno => exact absurd rfl (hno entries)
    | missing hf hrequired hnone =>
      exact (List.mem_append.1 hf).imp (.missing · hrequired hnone) (.missing · hrequired hnone)
    | field hf hv h => exact (List.mem_append.1 hf).imp (.field · hv h) (.field · hv h)
  · have hmono : ∀ hs : List (FieldOf Shape), (∀ f ∈ hs, f ∈ fs ++ gs) →
        Fault (.record hs) (.dict entries) p → Fault (.record (fs ++ gs)) (.dict entries) p := by
      intro hs hsub h
      cases h with
      | notRecord hno => exact absurd rfl (hno entries)
      | missing hf hrequired hnone => exact .missing (hsub _ hf) hrequired hnone
      | field hf hv h => exact .field (hsub _ hf) hv h
    rintro (h | h)
    · exact hmono fs (fun _ => List.mem_append_left gs) h
    · exact hmono gs (fun _ => List.mem_append_right fs) h

theorem Fault.of_record (h : Fault (.record fs) (.dict entries) p) :
    ∃ f ∈ fs, ∃ q, p = .field f.name :: q := by
  cases h with
  | notRecord hno => exact absurd rfl (hno entries)
  | missing hf => exact ⟨_, hf, _, rfl⟩
  | field hf => exact ⟨_, hf, _, rfl⟩

theorem Before.sublist (hsub : fs.Sublist gs) (h : Before (.record fs) p q) :
    Before (.record gs) p q := by
  cases h with
  | fields h hne => exact .fields (h.trans hsub) hne
  | field hf h => exact .field (hsub.subset hf) h

end Shape

namespace Settles

open Shape

variable {α β : Type} {t : Shape} {r : ReadAs α} {fs gs : List (FieldOf Shape)}
  {entries : Keyed Value} {name : String} {required : Bool}

/-- A field that is there is settled like its value. -/
theorem found {v : Value} {c : Checked α} (h : Settles t v c) (hv : entries.get? name = some v) :
    Settles (.record [⟨name, t, required⟩]) (.dict entries) (c.within (.field name)) where
  mem_iff p := by
    rw [Checked.paths_within, List.mem_map]
    constructor
    · rintro ⟨q, hq, rfl⟩
      exact Fault.field (f := ⟨name, t, required⟩) List.mem_cons_self hv ((h.mem_iff q).1 hq)
    · intro hp
      cases hp with
      | notRecord hno => exact absurd rfl (hno entries)
      | missing hf _ hnone =>
        obtain rfl := List.mem_singleton.1 hf
        rw [hv] at hnone
        cases hnone
      | field hf hv' hq =>
        obtain rfl := List.mem_singleton.1 hf
        obtain rfl := Option.some.inj (hv.symm.trans hv')
        exact ⟨_, (h.mem_iff _).2 hq, rfl⟩
  ordered := by
    rw [Checked.paths_within]
    exact h.ordered.map _ fun _ _ =>
      Before.field (f := ⟨name, t, required⟩) List.mem_cons_self
  hasReason := h.hasReason.within _

theorem field (h : Reads t r) (entries : Keyed Value) (name : String) :
    Settles (.record [⟨name, t, true⟩]) (.dict entries) (entries.field name r) := by
  unfold Keyed.field
  cases hv : entries.get? name with
  | some v => exact (h v).found hv
  | none =>
    refine .refused fun p => ⟨fun hp => ?_, ?_⟩
    · cases hp with
      | notRecord hno => exact absurd rfl (hno entries)
      | missing hf => rw [List.mem_singleton.1 hf]
      | field hf hv' =>
        obtain rfl := List.mem_singleton.1 hf
        rw [hv] at hv'
        cases hv'
    · rintro rfl
      exact Fault.missing (f := ⟨name, t, true⟩) List.mem_cons_self rfl hv

theorem fieldOr (h : Reads t r) (entries : Keyed Value) (name : String) (absent : α) :
    Settles (.record [⟨name, t, false⟩]) (.dict entries) (entries.fieldOr name absent r) := by
  unfold Keyed.fieldOr
  cases hv : entries.get? name with
  | some v => exact (h v).found hv
  | none =>
    refine .accepted (fun p hp => ?_) absent
    cases hp with
    | notRecord hno => exact absurd rfl (hno entries)
    | missing hf hrequired =>
      obtain rfl := List.mem_singleton.1 hf
      cases hrequired
    | field hf hv' =>
      obtain rfl := List.mem_singleton.1 hf
      rw [hv] at hv'
      cases hv'

/-- Fields that are read after others come after them. -/
theorem seq {c : Checked (α → β)} {c' : Checked α} (h : Settles (.record fs) (.dict entries) c)
    (h' : Settles (.record gs) (.dict entries) c') (hne : ∀ f ∈ fs, ∀ g ∈ gs, f.name ≠ g.name) :
    Settles (.record (fs ++ gs)) (.dict entries) (c <*> c') where
  mem_iff p := by
    rw [Checked.paths_seq, List.mem_append, h.mem_iff, h'.mem_iff, fault_append]
  ordered := by
    rw [Checked.paths_seq, List.pairwise_append]
    refine ⟨h.ordered.imp (Before.sublist (List.sublist_append_left fs gs)),
      h'.ordered.imp (Before.sublist (List.sublist_append_right fs gs)), fun p hp q hq => ?_⟩
    -- What is at fault says under which field it is, so positions need no look at the readers.
    obtain ⟨f, hf, p, rfl⟩ := ((h.mem_iff p).1 hp).of_record
    obtain ⟨g, hg, q, rfl⟩ := ((h'.mem_iff q).1 hq).of_record
    have hpair : [f, g].Sublist (fs ++ gs) :=
      (List.singleton_sublist.2 hf).append (List.singleton_sublist.2 hg)
    exact .fields hpair (hne f hf g hg)
  hasReason := h.hasReason.seq h'.hasReason

end Settles

theorem ReadAs.reads_record {α : Type} {fs : List (FieldOf Shape)} {read : Keyed Value → Checked α}
    (h : ∀ entries, Settles (.record fs) (.dict entries) (read entries)) :
    Reads (.record fs) (record read) := by
  intro v
  by_cases hv : ∃ entries, v = .dict entries
  · obtain ⟨entries, rfl⟩ := hv
    exact h entries
  · have hrefused : record read v = .refuse .recordExpected := by
      cases v <;> first | rfl | exact absurd ⟨_, rfl⟩ hv
    rw [hrefused]
    refine .refused fun p => ⟨fun hp => ?_, ?_⟩
    · cases hp with
      | notRecord => rfl
      | missing => exact absurd ⟨_, rfl⟩ hv
      | field => exact absurd ⟨_, rfl⟩ hv
    · rintro rfl
      exact .notRecord (not_exists.1 hv)

end StructGen
