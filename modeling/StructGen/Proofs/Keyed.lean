import Mathlib.Data.List.Nodup
import Mathlib.Data.List.Perm.Basic
import StructGen.Keyed
/-!
# What keyed lists hold

A keyed list is read through `get?`. With unique keys an entry is in the list if and only if `get?`
finds it, so two such lists that answer alike are reorderings of each other. `update` keeps the
keys unique.
-/
namespace StructGen.Keyed

variable {α β : Type}

/-! ## Keys and entries -/

theorem mem_keys {l : Keyed α} {k : String} : k ∈ l.keys ↔ ∃ v, (k, v) ∈ l := by
  simp [keys]

theorem keys_of_mem {l : Keyed α} {k : String} {v : α} (h : (k, v) ∈ l) : k ∈ l.keys :=
  mem_keys.2 ⟨v, h⟩

@[simp] theorem keys_cons (e : String × α) (l : Keyed α) : keys (e :: l) = e.1 :: keys l := rfl

@[simp] theorem keys_append (l l' : Keyed α) : keys (l ++ l') = keys l ++ keys l' :=
  List.map_append

@[simp] theorem get?_nil (k : String) : get? ([] : Keyed α) k = none := rfl

@[simp] theorem get?_cons (e : String × α) (l : Keyed α) (k : String) :
    get? (e :: l) k = if k = e.1 then some e.2 else l.get? k := by
  obtain ⟨n, v⟩ := e
  unfold get?
  by_cases h : k = n
  · simp [h]
  · have hb : (k == n) = false := beq_eq_false_iff_ne.2 h
    simp only [List.lookup_cons, hb, if_neg h]

theorem get?_append (l l' : Keyed α) (k : String) : get? (l ++ l') k = (get? l k).or (get? l' k) := by
  induction l with
  | nil => simp
  | cons e rest ih => by_cases h : k = e.1 <;> simp [h, ih]

theorem mem_of_get? {l : Keyed α} {k : String} {v : α} (h : l.get? k = some v) : (k, v) ∈ l := by
  obtain ⟨before, after, rfl, -⟩ := List.lookup_eq_some_iff.1 h
  simp

theorem get?_eq_none {l : Keyed α} {k : String} : l.get? k = none ↔ k ∉ l.keys := by
  induction l with
  | nil => simp [keys]
  | cons e rest ih =>
    by_cases h : k = e.1
    · simp [h]
    · simp [h, ih]

/-- With unique keys the entries are what `get?` finds. -/
theorem get?_eq_some {l : Keyed α} (hn : l.keys.Nodup) {k : String} {v : α} :
    l.get? k = some v ↔ (k, v) ∈ l := by
  refine ⟨mem_of_get?, fun h => ?_⟩
  induction l with
  | nil => cases h
  | cons e rest ih =>
    obtain ⟨hnew, hrest⟩ := List.nodup_cons.1 hn
    rcases List.mem_cons.1 h with rfl | h
    · simp
    · have hne : k ≠ e.1 := by
        rintro rfl
        exact hnew (keys_of_mem h)
      rw [get?_cons, if_neg hne]
      exact ih hrest h

theorem eq_of_mem {l : Keyed α} (hn : l.keys.Nodup) {k : String} {v w : α} (hv : (k, v) ∈ l)
    (hw : (k, w) ∈ l) : v = w := by
  rw [← get?_eq_some hn] at hv hw
  exact Option.some.inj (hv.symm.trans hw)

theorem nodup_of_keys {l : Keyed α} (hn : l.keys.Nodup) : l.Nodup :=
  List.Nodup.of_map _ hn

/-- Keyed lists with unique keys that answer alike are reorderings of each other. -/
theorem perm_of_get? {l l' : Keyed α} (hn : l.keys.Nodup) (hn' : l'.keys.Nodup)
    (h : ∀ k, l.get? k = l'.get? k) : l.Perm l' := by
  rw [List.perm_ext_iff_of_nodup (nodup_of_keys hn) (nodup_of_keys hn')]
  rintro ⟨k, v⟩
  rw [← get?_eq_some hn, ← get?_eq_some hn', h]

theorem get?_filter (p : String → Bool) (l : Keyed α) (k : String) :
    get? (l.filter fun e => p e.1) k = if p k then l.get? k else none := by
  induction l with
  | nil => simp
  | cons e rest ih =>
    by_cases hk : k = e.1
    · subst hk
      by_cases hp : p e.1 = true <;> simp [hp, ih]
    · by_cases hp : p e.1 = true <;> simp [hp, hk, ih]

theorem flatMap_ite_keys (l : Keyed α) (p : String → Prop) [DecidablePred p]
    (f : String → List β) :
    (l.flatMap fun e => if p e.1 then f e.1 else []) = (l.keys.filter (p ·)).flatMap f := by
  induction l with
  | nil => rfl
  | cons e rest ih => by_cases h : p e.1 <;> simp [h, ih]

/-! ## Updates -/

theorem get?_update (l : Keyed α) (k k' : String) (initial : α) (f : α → α) :
    (l.update k initial f).get? k' =
      if k' = k then some (f ((l.get? k).getD initial)) else l.get? k' := by
  induction l with
  | nil => simp [update]
  | cons e rest ih =>
    obtain ⟨n, v⟩ := e
    by_cases hn : n = k
    · subst hn
      by_cases h : k' = n <;> simp [update, h]
    · by_cases h : k' = n
      · subst h
        simp [update, hn]
      · simp only [update, if_neg hn, get?_cons, if_neg h, if_neg (Ne.symm hn)]
        exact ih

theorem keys_update (l : Keyed α) (k : String) (initial : α) (f : α → α) :
    (l.update k initial f).keys = if k ∈ l.keys then l.keys else l.keys ++ [k] := by
  induction l with
  | nil => simp [update, keys]
  | cons e rest ih =>
    obtain ⟨n, v⟩ := e
    by_cases hn : n = k
    · simp [update, hn]
    · simp only [update, if_neg hn, keys_cons, ih, List.mem_cons, Ne.symm hn, false_or]
      split <;> rfl

theorem nodup_keys_update {l : Keyed α} (h : l.keys.Nodup) (k : String) (initial : α) (f : α → α) :
    (l.update k initial f).keys.Nodup := by
  rw [keys_update]
  split
  · exact h
  · next hk =>
    refine List.nodup_append.2 ⟨h, by simp, ?_⟩
    rintro a ha b hb rfl
    rw [List.mem_singleton] at hb
    exact hk (hb ▸ ha)

/-- An update of one list leaves the others. -/
theorem length_flatMap_update (l : Keyed (List α)) (k : String) {f : List α → List α} {n : Nat}
    (hf : ∀ v, (f v).length = v.length + n) :
    ((l.update k [] f).flatMap Prod.snd).length = (l.flatMap Prod.snd).length + n := by
  induction l with
  | nil => simp [update, hf]
  | cons e rest ih =>
    by_cases he : e.1 = k
    · simp [update, he, hf]
      omega
    · simp only [update, if_neg he, List.flatMap_cons, List.length_append, ih]
      omega

/-! ## Writes -/

theorem put_eq_update (k : String) (v : α) (l : Keyed α) : put k v l = l.update k v fun _ => v := by
  induction l with
  | nil => rfl
  | cons e rest ih =>
    obtain ⟨n, w⟩ := e
    simp only [put, update, ih]

theorem get?_put (k : String) (v : α) (l : Keyed α) (k' : String) :
    get? (put k v l) k' = if k' = k then some v else l.get? k' := by
  rw [put_eq_update, get?_update]

theorem putAll_cons (l : Keyed α) (e : String × α) (later : Keyed α) :
    l.putAll (e :: later) = putAll (put e.1 e.2 l) later := rfl

/-- What is written last counts, and what is not written stays. -/
theorem get?_putAll (l later : Keyed α) (k : String) :
    (l.putAll later).get? k = (get? (ofPairs later) k).or (l.get? k) := by
  induction later generalizing l with
  | nil => simp [putAll, ofPairs]
  | cons e rest ih =>
    have hp : ofPairs (e :: rest) = putAll [e] rest := rfl
    rw [hp, putAll_cons, ih, ih, get?_put, get?_cons]
    by_cases h : k = e.1 <;> simp [h]

theorem nodup_keys_putAll {l : Keyed α} (h : l.keys.Nodup) (later : Keyed α) :
    (l.putAll later).keys.Nodup := by
  induction later generalizing l with
  | nil => exact h
  | cons e rest ih =>
    rw [putAll_cons, put_eq_update]
    exact ih (nodup_keys_update h _ _ _)

theorem put_of_fresh {k : String} {l : Keyed α} (h : k ∉ l.keys) (v : α) :
    put k v l = l ++ [(k, v)] := by
  induction l with
  | nil => rfl
  | cons e rest ih =>
    simp only [keys_cons, List.mem_cons, not_or] at h
    rw [put, if_neg (Ne.symm h.1), ih h.2, List.cons_append]

theorem get?_ofPairs_eq_none {l : Keyed α} {k : String} : get? (ofPairs l) k = none ↔ k ∉ l.keys := by
  induction l with
  | nil => simp [ofPairs, putAll, keys]
  | cons e rest ih =>
    have hp : ofPairs (e :: rest) = putAll [e] rest := rfl
    rw [hp, get?_putAll, Option.or_eq_none_iff, ih]
    simp [and_comm]

/-- Entries of new keys are added at the end. -/
theorem putAll_of_fresh {l later : Keyed α} (hn : later.keys.Nodup)
    (hnew : ∀ k ∈ later.keys, k ∉ l.keys) : l.putAll later = l ++ later := by
  induction later generalizing l with
  | nil => simp [putAll]
  | cons e rest ih =>
    obtain ⟨hfirst, hrest⟩ := List.nodup_cons.1 hn
    have hput : put e.1 e.2 l = l ++ [e] := put_of_fresh (hnew e.1 (by simp)) e.2
    have hkeys : ∀ k ∈ keys rest, k ∉ keys (l ++ [e]) := by
      intro k hk hmem
      rw [keys_append, List.mem_append] at hmem
      rcases hmem with hl | he
      · exact hnew k (by simp [hk]) hl
      · obtain rfl : k = e.1 := by simpa [keys] using he
        exact hfirst hk
    rw [putAll_cons, hput, ih hrest hkeys, List.append_assoc, List.singleton_append]

end StructGen.Keyed
