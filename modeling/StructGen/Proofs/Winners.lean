import StructGen.Proofs.Fates
/-!
# Whether the winner is kept

An association that is repeated is reported against the last one over its foreign key, before anyone
asks whether that one's target is emitted. `winner_kept_iff`: the winner becomes a link if and only
if its target is emitted. If it is not, the foreign key keeps no link at all, whatever the targets of
the associations that lost to it.
-/
namespace StructGen

/-- The last of the associations over a foreign key. -/
def LastOver (table : String) (as : List Association) (key : String × String) (w : Association) :
    Prop :=
  ∃ before after, as = before ++ w :: after ∧ w.key table = key ∧ ∀ b ∈ after, b.key table ≠ key

/-- An association loses: a later one is the last over its foreign key. -/
def LosesTo (table : String) (as : List Association) (a w : Association) : Prop :=
  ∃ before later, as = before ++ a :: later ∧ LastOver table later (a.key table) w

variable {scope : Scope} {m : Model} {table : String} {key : String × String}
  {as later : List Association} {a b w : Association}

/-! ## Winners and losers -/

theorem winner?_eq_some_iff : a.winner? table later = some w ↔ LastOver table later (a.key table) w :=
  Association.winner?_eq_some

theorem LastOver.key_eq (h : LastOver table as key w) : w.key table = key := by
  obtain ⟨before, after, -, hw, -⟩ := h
  exact hw

theorem LastOver.cons (h : LastOver table as key w) (b : Association) :
    LastOver table (b :: as) key w := by
  obtain ⟨before, after, rfl, hw, hafter⟩ := h
  exact ⟨b :: before, after, rfl, hw, hafter⟩

theorem LosesTo.lastOver (h : LosesTo table as a w) : LastOver table as (a.key table) w := by
  obtain ⟨before, later, rfl, between, after, rfl, hw, hafter⟩ := h
  exact ⟨before ++ a :: between, after, by simp, hw, hafter⟩

/-- Over the foreign key of a declared association there is a last one. -/
theorem exists_lastOver (table : String) (ha : a ∈ as) : ∃ w, LastOver table as (a.key table) w := by
  obtain ⟨before, later, rfl⟩ := List.append_of_mem ha
  cases hw : a.winner? table later with
  | some w => exact ⟨w, LosesTo.lastOver ⟨before, later, rfl, winner?_eq_some_iff.1 hw⟩⟩
  | none => exact ⟨a, before, later, rfl, rfl, Association.winner?_eq_none.1 hw⟩

/-- The associations that are kept are the last ones over their foreign keys. -/
theorem mem_keptAssociations :
    w ∈ keptAssociations table as ↔ LastOver table as (w.key table) w := by
  induction as with
  | nil => simp [keptAssociations, LastOver]
  | cons a later ih =>
    unfold keptAssociations
    constructor
    · intro hmem
      split at hmem
      · exact (ih.1 hmem).cons a
      · next hnone =>
        rcases List.mem_cons.1 hmem with rfl | hmem
        · exact ⟨[], later, rfl, rfl, Association.winner?_eq_none.1 hnone⟩
        · exact (ih.1 hmem).cons a
    · rintro ⟨before, after, hsplit, hw, hafter⟩
      rcases List.cons_eq_append_iff.1 hsplit with ⟨rfl, hcons⟩ | ⟨before, rfl, rfl⟩
      · -- Nothing after the first one is over its foreign key.
        obtain ⟨rfl, rfl⟩ := List.cons.inj hcons
        rw [Association.winner?_eq_none.2 hafter]
        exact List.mem_cons_self
      · have hmem := ih.2 ⟨before, after, rfl, hw, hafter⟩
        split
        · exact hmem
        · exact List.mem_cons_of_mem a hmem

theorem mem_repeatedAssociations :
    (a, w) ∈ repeatedAssociations table as ↔ LosesTo table as a w := by
  induction as with
  | nil => simp [repeatedAssociations, LosesTo]
  | cons b later ih =>
    have hcons : LosesTo table (b :: later) a w ↔
        a = b ∧ LastOver table later (a.key table) w ∨ LosesTo table later a w := by
      constructor
      · rintro ⟨before, rest, hsplit, hw⟩
        rcases List.cons_eq_append_iff.1 hsplit with ⟨rfl, hcons⟩ | ⟨before, rfl, rfl⟩
        · obtain ⟨rfl, rfl⟩ := List.cons.inj hcons
          exact .inl ⟨rfl, hw⟩
        · exact .inr ⟨before, rest, rfl, hw⟩
      · rintro (⟨rfl, hw⟩ | ⟨before, rest, rfl, hw⟩)
        · exact ⟨[], later, rfl, hw⟩
        · exact ⟨b :: before, rest, rfl, hw⟩
    rw [hcons, ← ih, repeatedAssociations]
    split
    · next w' hw' =>
      rw [List.mem_cons, Prod.mk.injEq]
      refine or_congr_left (and_congr_right ?_)
      rintro rfl
      rw [← winner?_eq_some_iff, hw', Option.some.injEq, eq_comm]
    · next hnone =>
      rw [iff_or_self]
      rintro ⟨rfl, hw⟩
      rw [← winner?_eq_some_iff, hnone] at hw
      cases hw

theorem LastOver.kept (h : LastOver table as key w) : w ∈ keptAssociations table as := by
  rw [mem_keptAssociations, h.key_eq]
  exact h

/-- A foreign key has one last association. -/
theorem LastOver.unique (h : LastOver table as key a) (h' : LastOver table as key b) : a = b :=
  List.inj_on_of_nodup_map (nodup_kept_keys table as) h.kept h'.kept (h.key_eq.trans h'.key_eq.symm)

/-! ## What a resolution makes of them -/

/-- The duplicates that a resolution reports are the associations that lose. -/
theorem mem_duplicates {d : Diagnostic} :
    d ∈ (scope.resolve m).diagnostics ∧ d.kind = .duplicate ↔
      ∃ a w, LosesTo m.tableName m.associations a w ∧ d = duplicateWarning m.name a w := by
  simp only [Scope.resolve, List.mem_append, List.mem_map, Prod.exists, mem_repeatedAssociations]
  constructor
  · rintro ⟨⟨a, w, h, rfl⟩ | ⟨a, -, rfl⟩, hkind⟩
    · exact ⟨a, w, h, rfl⟩
    · cases hkind
  · rintro ⟨a, w, h, rfl⟩
    exact ⟨.inl ⟨a, w, h, rfl⟩, rfl⟩

theorem linked_iff (h : LastOver m.tableName m.associations key w) :
    (∃ l ∈ (scope.resolve m).links, l.association = w) ↔ w.target ∈ scope.requested := by
  rw [← List.mem_map, scope.resolve_associations, Model.emitted, List.mem_filter,
    and_iff_right h.kept, List.contains_iff_mem]

theorem key_linked_iff (h : LastOver m.tableName m.associations key w) :
    (∃ l ∈ (scope.resolve m).links, l.association.key m.tableName = key) ↔
      w.target ∈ scope.requested := by
  rw [← linked_iff h]
  -- A link over the foreign key is one of a kept association, and this is the last one.
  constructor
  · rintro ⟨l, hl, hkey⟩
    have hmem : l.association ∈ m.emitted scope.requested := by
      rw [← scope.resolve_associations]
      exact List.mem_map_of_mem hl
    have hlast := mem_keptAssociations.1 (List.mem_filter.1 hmem).1
    rw [hkey] at hlast
    exact ⟨l, hl, hlast.unique h⟩
  · rintro ⟨l, hl, rfl⟩
    exact ⟨l, hl, h.key_eq⟩

theorem missing_of_lastOver (h : LastOver m.tableName m.associations key w)
    (ht : w.target ∉ scope.requested) : missingWarning m.name w ∈ (scope.resolve m).diagnostics := by
  refine List.mem_append_right _ (List.mem_map_of_mem (List.mem_filter.2 ⟨h.kept, ?_⟩))
  simpa using ht

/-- A resolution reports those that lose, and the one they lose to becomes a link if and only if its
target is emitted. A foreign key keeps a link if and only if the target of its last association is
emitted; if it is not, it is reported as missing. -/
theorem winner_kept_iff (scope : Scope) (m : Model) :
    (∀ d, d ∈ (scope.resolve m).diagnostics ∧ d.kind = .duplicate ↔
        ∃ a w, LosesTo m.tableName m.associations a w ∧ d = duplicateWarning m.name a w) ∧
      (∀ a w, LosesTo m.tableName m.associations a w →
        ((∃ l ∈ (scope.resolve m).links, l.association = w) ↔ w.target ∈ scope.requested)) ∧
      ∀ a ∈ m.associations, ∃ w, LastOver m.tableName m.associations (a.key m.tableName) w ∧
        ((∃ l ∈ (scope.resolve m).links, l.association.key m.tableName = a.key m.tableName) ↔
          w.target ∈ scope.requested) ∧
        (w.target ∉ scope.requested → missingWarning m.name w ∈ (scope.resolve m).diagnostics) := by
  refine ⟨fun d => mem_duplicates, fun a w h => linked_iff h.lastOver, fun a ha => ?_⟩
  obtain ⟨w, hw⟩ := exists_lastOver m.tableName ha
  exact ⟨w, hw, key_linked_iff hw, missing_of_lastOver hw⟩

/-- The association of an order to the one who pays. -/
def payer (name target : String) : Association where
  name
  kind := .belongsTo
  target
  foreignKey := "customer_id"

/-- Orders with two names for one foreign key. -/
def twicePaid (target : String) : Model where
  name := "Order"
  tableName := "orders"
  associations := [payer "customer" "Customer", payer "buyer" target]

theorem losesTo_twicePaid (target : String) : LosesTo "orders" (twicePaid target).associations
    (payer "customer" "Customer") (payer "buyer" target) :=
  ⟨[], [payer "buyer" target], rfl, [], [], rfl, rfl, by simp⟩

theorem buyer_kept : LosesTo "orders" (twicePaid "Customer").associations
      (payer "customer" "Customer") (payer "buyer" "Customer") ∧
    ∃ l ∈ (Scope.resolve ⟨["Order", "Customer"], none⟩ (twicePaid "Customer")).links,
      l.association = payer "buyer" "Customer" :=
  have hloses := losesTo_twicePaid "Customer"
  ⟨hloses, ((winner_kept_iff ⟨["Order", "Customer"], none⟩ (twicePaid "Customer")).2.1 _ _ hloses).2
    (by decide)⟩

/-- The customer is reported to lose to a buyer that is dropped in turn, so neither is kept, though
customers are emitted. -/
theorem neither_kept :
    let resolution := Scope.resolve ⟨["Order", "Customer"], none⟩ (twicePaid "Client")
    LosesTo "orders" (twicePaid "Client").associations
        (payer "customer" "Customer") (payer "buyer" "Client") ∧
      duplicateWarning "Order" (payer "customer" "Customer") (payer "buyer" "Client") ∈
        resolution.diagnostics ∧
      (payer "customer" "Customer").target ∈ ["Order", "Customer"] ∧ resolution.links = [] :=
  ⟨losesTo_twicePaid "Client", by decide +kernel, by decide, by decide +kernel⟩

end StructGen
