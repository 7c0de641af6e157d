import Mathlib.Data.List.Count
import Mathlib.Data.List.Induction
import StructGen.Proofs.Keyed
import StructGen.Run.Gathered
/-!
# What the first pass gathers

A struct name belongs to the first schema that has it (`holder?`). The arena holds exactly the
schemas that hold their struct names, each under its own name, and an identifier is refused as often
as it is requested if it leads to no schema, or to one whose struct name belongs to a model of
another name (`refusals`). `gather_inv` says so of every run; `Gathered.Inv.step` of one identifier.
-/
namespace StructGen

/-! ## Holders and refusals -/

/-- The schemas that identifiers lead to, in order. -/
def schemas (introspect : Introspect) (ids : List String) : List Model :=
  ids.filterMap fun id => (introspect id).toOption

/-- The schema a struct name belongs to: the first that has it. -/
def holder? (introspect : Introspect) (ids : List String) (struct : String) : Option Model :=
  (schemas introspect ids).find? fun m => goName m.name = struct

/-- Why an identifier is refused in the first pass, if it is. -/
def refusal? (introspect : Introspect) (ids : List String) (id : String) : Option Fault :=
  match introspect id with
  | .error fault => some fault
  | .ok m =>
    match holder? introspect ids (goName m.name) with
    | none => none
    | some t =>
      if t.name = m.name then none
      else some (.nameCollision m.name (goName m.name)
        ["model '" ++ t.name ++ "'", "model '" ++ m.name ++ "'"])

/-- The failures that the first pass reports of an identifier: one for each time it is requested. -/
def refusals (introspect : Introspect) (ids : List String) (id : String) : List Diagnostic :=
  match refusal? introspect ids id with
  | none => []
  | some fault => List.replicate (ids.count id) (Diagnostic.ofFault id fault)

section
variable {introspect : Introspect} {ids : List String} {id struct : String} {m : Model}

theorem mem_schemas : m ∈ schemas introspect ids ↔ ∃ id ∈ ids, introspect id = .ok m := by
  unfold schemas
  rw [List.mem_filterMap]
  constructor
  · rintro ⟨id, hid, h⟩
    refine ⟨id, hid, ?_⟩
    cases hi : introspect id with
    | error fault => rw [hi] at h; cases h
    | ok t => rw [hi] at h; cases h; rfl
  · rintro ⟨id, hid, h⟩
    exact ⟨id, hid, by rw [h]; rfl⟩

theorem schemas_append_ok (h : introspect id = .ok m) :
    schemas introspect (ids ++ [id]) = schemas introspect ids ++ [m] := by
  simp [schemas, List.filterMap_append, h, Except.toOption]

theorem schemas_append_error {fault : Fault} (h : introspect id = .error fault) :
    schemas introspect (ids ++ [id]) = schemas introspect ids := by
  simp [schemas, List.filterMap_append, h, Except.toOption]

theorem goName_of_holder (h : holder? introspect ids struct = some m) : goName m.name = struct := by
  simpa using List.find?_some h

/-- The struct name of a requested schema belongs to some requested schema. -/
theorem exists_holder (hid : id ∈ ids) (h : introspect id = .ok m) :
    ∃ t, holder? introspect ids (goName m.name) = some t := by
  rw [← Option.isSome_iff_exists, holder?, List.find?_isSome]
  exact ⟨m, mem_schemas.2 ⟨id, hid, h⟩, by simp⟩

theorem holder_append_ok (h : introspect id = .ok m) (struct : String) :
    holder? introspect (ids ++ [id]) struct =
      (holder? introspect ids struct).or (if goName m.name = struct then some m else none) := by
  unfold holder?
  rw [schemas_append_ok h, List.find?_append]
  by_cases hs : goName m.name = struct <;> simp [hs]

theorem holder_append_error {fault : Fault} (h : introspect id = .error fault) (struct : String) :
    holder? introspect (ids ++ [id]) struct = holder? introspect ids struct := by
  unfold holder?
  rw [schemas_append_error h]

/-- A later identifier takes no struct name away. -/
theorem holder_append (id : String) (h : holder? introspect ids struct = some m) :
    holder? introspect (ids ++ [id]) struct = some m := by
  cases hi : introspect id with
  | error fault => rw [holder_append_error hi, h]
  | ok t => rw [holder_append_ok hi, h, Option.some_or]

theorem refusal_append {last : String} (hid : id ∈ ids) :
    refusal? introspect (ids ++ [last]) id = refusal? introspect ids id := by
  unfold refusal?
  cases hi : introspect id with
  | error fault => rfl
  | ok m =>
    obtain ⟨t, ht⟩ := exists_holder hid hi
    simp only [holder_append last ht, ht]

theorem mem_refusals {d : Diagnostic} : d ∈ refusals introspect ids id ↔
    id ∈ ids ∧ ∃ fault, refusal? introspect ids id = some fault ∧ d = Diagnostic.ofFault id fault := by
  unfold refusals
  cases refusal? introspect ids id with
  | none => simp
  | some fault =>
    have hcount : ids.count id ≠ 0 ↔ id ∈ ids := by
      rw [← Nat.pos_iff_ne_zero, List.count_pos_iff]
    simp [List.mem_replicate, hcount]

theorem refusals_of_not_mem (h : id ∉ ids) : refusals introspect ids id = [] := by
  unfold refusals
  cases refusal? introspect ids id <;> simp [List.count_eq_zero.2 h]

/-- One more identifier can only add its own refusal. -/
theorem refusals_append (introspect : Introspect) (ids : List String) (last id : String) :
    refusals introspect (ids ++ [last]) id = refusals introspect ids id ++
      if id = last then
        ((refusal? introspect (ids ++ [last]) last).map (Diagnostic.ofFault last)).toList
      else [] := by
  by_cases hid : id ∈ ids
  · unfold refusals
    rw [refusal_append hid]
    by_cases hl : id = last
    · subst hl
      rw [refusal_append hid]
      cases refusal? introspect ids id <;> simp [List.count_append, List.replicate_succ']
    · cases refusal? introspect ids id <;> simp [List.count_append, hl, Ne.symm hl]
  · rw [refusals_of_not_mem hid, List.nil_append]
    unfold refusals
    by_cases hl : id = last
    · subst hl
      cases refusal? introspect (ids ++ [id]) id <;> simp [List.count_append, List.count_eq_zero.2 hid]
    · cases refusal? introspect (ids ++ [last]) id <;>
        simp [List.count_append, List.count_eq_zero.2 hid, hl, Ne.symm hl]

end

/-! ## The invariant -/

/-- What has been gathered when `ids` have been looked up. -/
structure Gathered.Inv (introspect : Introspect) (ids : List String) (g : Gathered) : Prop where
  mem_arena : ∀ k m, (k, m) ∈ g.arena ↔ m.name = k ∧ holder? introspect ids (goName k) = some m
  arena_keys : g.arena.keys.Nodup
  structNames : ∀ s, g.structNames.get? s = (holder? introspect ids s).map (·.name)
  report_keys : g.reports.keys.Nodup
  mem_reports : ∀ k, k ∈ g.reports.keys ↔ k ∈ g.arena.keys ∨ refusals introspect ids k ≠ []
  reports : ∀ k, (g.reports.get? k).getD [] = refusals introspect ids k

namespace Gathered.Inv

variable {introspect : Introspect} {ids : List String} {g : Gathered}

theorem mem_keys (h : g.Inv introspect ids) {k : String} :
    k ∈ g.arena.keys ↔ ∃ m, holder? introspect ids (goName k) = some m ∧ m.name = k := by
  rw [Keyed.mem_keys]
  exact exists_congr fun m => by rw [h.mem_arena, and_comm]

/-- An identifier that is refused is reported and changes nothing else. -/
theorem refuse (h : g.Inv introspect ids) {id : String} {fault : Fault}
    (hholder : ∀ s, holder? introspect (ids ++ [id]) s = holder? introspect ids s)
    (hrefused : refusal? introspect (ids ++ [id]) id = some fault) :
    (g.report (Diagnostic.ofFault id fault)).Inv introspect (ids ++ [id]) := by
  have hr : ∀ k, refusals introspect (ids ++ [id]) k =
      refusals introspect ids k ++ if k = id then [Diagnostic.ofFault id fault] else [] := by
    intro k
    rw [refusals_append, hrefused]
    rfl
  refine ⟨fun k m => ?_, h.arena_keys, fun s => ?_, ?_, fun k => ?_, fun k => ?_⟩
  · rw [hholder]
    exact h.mem_arena k m
  · rw [hholder]
    exact h.structNames s
  · exact Keyed.nodup_keys_update h.report_keys _ _ _
  · have hkeys := h.mem_reports k
    simp only [report, Diagnostic.ofFault, Keyed.keys_update, hr]
    by_cases hk : k = id
    · subst hk
      split <;> simp_all
    · split <;> simp [hk, hkeys]
  · simp only [report, Diagnostic.ofFault, Keyed.get?_update, hr]
    by_cases hk : k = id
    · subst hk
      simp [← h.reports]
    · simp [hk, h.reports]

/-- An identifier that leads to a known model again changes nothing. -/
theorem known (h : g.Inv introspect ids) {id : String} {again : List (String × String)}
    (hholder : ∀ s, holder? introspect (ids ++ [id]) s = holder? introspect ids s)
    (hrefused : refusal? introspect (ids ++ [id]) id = none) :
    { g with repeated := again }.Inv introspect (ids ++ [id]) := by
  have hr : ∀ k, refusals introspect (ids ++ [id]) k = refusals introspect ids k := by
    intro k
    rw [refusals_append, hrefused]
    simp
  refine ⟨fun k m => ?_, h.arena_keys, fun s => ?_, h.report_keys, fun k => ?_, fun k => ?_⟩
  · rw [hholder]
    exact h.mem_arena k m
  · rw [hholder]
    exact h.structNames s
  · rw [hr]
    exact h.mem_reports k
  · rw [hr]
    exact h.reports k

/-- A schema with a new struct name joins the arena. -/
theorem add (h : g.Inv introspect ids) {id : String} {m : Model} (hm : introspect id = .ok m)
    (hnew : holder? introspect ids (goName m.name) = none) :
    (g.add m).Inv introspect (ids ++ [id]) := by
  have hholder : ∀ s, holder? introspect (ids ++ [id]) s =
      (holder? introspect ids s).or (if goName m.name = s then some m else none) := holder_append_ok hm
  have hrefused : refusal? introspect (ids ++ [id]) id = none := by
    unfold refusal?
    simp [hm, hholder, hnew]
  have hr : ∀ k, refusals introspect (ids ++ [id]) k = refusals introspect ids k := by
    intro k
    rw [refusals_append, hrefused]
    simp
  have hfresh : m.name ∉ g.arena.keys := by
    rw [h.mem_keys, hnew]
    simp
  refine ⟨fun k t => ?_, ?_, fun s => ?_, ?_, fun k => ?_, fun k => ?_⟩
  · rw [hholder]
    simp only [Gathered.add, List.mem_append, List.mem_singleton, Prod.mk.injEq, h.mem_arena]
    constructor
    · rintro (⟨rfl, ht⟩ | ⟨rfl, rfl⟩)
      · exact ⟨rfl, by rw [ht, Option.some_or]⟩
      · exact ⟨rfl, by simp [hnew]⟩
    · rintro ⟨rfl, ht⟩
      cases hk : holder? introspect ids (goName t.name) with
      | some t' =>
        rw [hk, Option.some_or] at ht
        exact .inl ⟨rfl, ht⟩
      | none =>
        rw [hk, Option.none_or] at ht
        split at ht
        · obtain rfl := Option.some.inj ht
          exact .inr ⟨rfl, rfl⟩
        · cases ht
  · simp only [Gathered.add, Keyed.keys_append]
    refine List.nodup_append.2 ⟨h.arena_keys, by simp [Keyed.keys], ?_⟩
    rintro a ha b hb rfl
    simp only [Keyed.keys, List.map_cons, List.map_nil, List.mem_singleton] at hb
    exact hfresh (hb ▸ ha)
  · rw [hholder]
    simp only [Gathered.add, Keyed.get?_append, h.structNames]
    by_cases hs : goName m.name = s
    · subst hs
      simp [hnew]
    · simp [hs, Ne.symm hs]
  · exact Keyed.nodup_keys_update h.report_keys _ _ _
  · have hkeys := h.mem_reports k
    have hone : Keyed.keys [(m.name, m)] = [m.name] := rfl
    simp only [Gathered.add, Keyed.keys_update, Keyed.keys_append, hone, hr, List.mem_append,
      List.mem_singleton]
    by_cases hk : k = m.name
    · subst hk
      split <;> simp_all
    · split <;> simp [hk, hkeys]
  · simp only [Gathered.add, Keyed.get?_update, hr]
    by_cases hk : k = m.name
    · subst hk
      simp [h.reports]
    · simp [hk, h.reports]

/-- What one identifier adds. -/
theorem step (h : g.Inv introspect ids) (id : String) :
    (g.step id (introspect id)).Inv introspect (ids ++ [id]) := by
  cases hi : introspect id with
  | error fault =>
    refine h.refuse (holder_append_error hi) ?_
    simp [refusal?, hi]
  | ok m =>
    -- A struct name that is held stays with its holder, whatever comes later.
    have hkept : ∀ t, holder? introspect ids (goName m.name) = some t → ∀ s,
        holder? introspect (ids ++ [id]) s = holder? introspect ids s := by
      intro t ht s
      rw [holder_append_ok hi]
      by_cases hs : goName m.name = s
      · subst hs
        rw [ht, Option.some_or]
      · simp [hs]
    simp only [Gathered.step]
    split
    · next hknown =>
      rw [List.contains_iff_mem, h.mem_keys] at hknown
      obtain ⟨t, ht, hname⟩ := hknown
      refine h.known (hkept t ht) ?_
      simp [refusal?, hi, hkept t ht, ht, hname]
    · next hknown =>
      rw [List.contains_iff_mem, h.mem_keys] at hknown
      rw [h.structNames]
      cases ht : holder? introspect ids (goName m.name) with
      | none => exact h.add hi ht
      | some t =>
        have hname : t.name ≠ m.name := fun he => hknown ⟨t, ht, he⟩
        refine h.refuse (hkept t ht) ?_
        simp [refusal?, hi, hkept t ht, ht, hname]

end Gathered.Inv

theorem gather_append_singleton (introspect : Introspect) (ids : List String) (id : String) :
    gather introspect (ids ++ [id]) = (gather introspect ids).step id (introspect id) := by
  rw [gather, List.foldl_append, List.foldl_cons, List.foldl_nil]
  rfl

/-- What the first pass has gathered in the end. -/
theorem gather_inv (introspect : Introspect) (ids : List String) :
    (gather introspect ids).Inv introspect ids := by
  -- From the right: the invariant speaks of the identifiers that were looked up before.
  induction ids using List.reverseRecOn with
  | nil =>
    have hnone : ∀ k, refusals introspect [] k = [] := fun k => refusals_of_not_mem List.not_mem_nil
    refine ⟨?_, ?_, ?_, ?_, ?_, ?_⟩ <;> simp [gather, holder?, schemas, Keyed.keys, hnone]
  | append_singleton ids id ih =>
    rw [gather_append_singleton]
    exact ih.step id

end StructGen
