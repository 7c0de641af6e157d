import StructGen.Proofs.Winners
/-!
# Whether a pointer has its way back

A single link is a pointer if the search finds a way back from its target through declared
associations. `way_back_kept_iff`: there is a way back through links, too, if and only if the search
could have gone where no step is lost, that is, where not all associations of a step are declared
again over their foreign keys. If each way back loses a step, the pointer guards against a cycle that
no struct has.
-/
namespace StructGen

/-- A chain between two different nodes needs no step from a node to itself. -/
theorem transGen_of_ne {α : Type} {r : α → α → Prop} {a b : α} (h : Relation.TransGen r a b)
    (hne : a ≠ b) : Relation.TransGen (fun x y => r x y ∧ x ≠ y) a b := by
  induction h using Relation.TransGen.head_induction_on with
  | single h => exact .single ⟨h, hne⟩
  | @head a c hac _ ih =>
    by_cases hc : c = b
    · exact .single (hc ▸ ⟨hac, hc ▸ hne⟩)
    · by_cases ha : a = c
      · exact ha ▸ ih hc
      · exact .head ⟨hac, ha⟩ (ih hc)

namespace Scope

variable {scope : Scope} {arena : Keyed Model} {model a b : String}

/-- The resolution of the schema of `a` has a single link to `b`. -/
def Keeps (scope : Scope) (arena : Keyed Model) (a b : String) : Prop :=
  ∃ m, arena.get? a = some m ∧
    ∃ l ∈ (scope.resolve m).links, l.cardinality = .single ∧ l.association.target = b

/-- All single associations of `a` to `b` are declared again over their foreign keys. -/
def Loses (arena : Keyed Model) (a b : String) : Prop :=
  ∃ m, arena.get? a = some m ∧ ∀ s ∈ m.associations, s.kind.isCollection = false → s.target = b →
    ¬LastOver m.tableName m.associations (s.key m.tableName) s

theorem link_single {s : Association} :
    (scope.link model s).cardinality = .single ↔ s.kind.isCollection = false := by
  unfold link
  split <;> simp_all

/-- A pointer to another model is one because the search finds a way back. -/
theorem embeds_of_byReference {s : Association} (h : (scope.link model s).byReference = true)
    (hne : s.target ≠ model) : scope.embeds s.target model = true := by
  unfold link at h
  split at h
  · cases h
  · simpa [hne] using h

theorem keeps_iff (hne : a ≠ b) :
    scope.Keeps arena a b ↔ scope.Holds arena a b ∧ ¬Loses arena a b := by
  constructor
  · rintro ⟨m, hm, l, hl, hsingle, rfl⟩
    rw [resolve_links] at hl
    obtain ⟨s, hs, rfl⟩ := List.mem_map.1 hl
    rw [link_association] at hne ⊢
    have hkind := link_single.1 hsingle
    obtain ⟨hdeclared, hrequested⟩ := Model.mem_emitted hs
    refine ⟨⟨m, hm, s, hdeclared, hkind, rfl, hne.symm, hrequested⟩, ?_⟩
    rintro ⟨m', hm', hlost⟩
    obtain rfl := Option.some.inj (hm.symm.trans hm')
    exact hlost s hdeclared hkind rfl (mem_keptAssociations.1 (List.mem_filter.1 hs).1)
  · rintro ⟨⟨m, hm, s, -, -, -, -, hrequested⟩, hkept⟩
    have hlast : ∃ s ∈ m.associations, s.kind.isCollection = false ∧ s.target = b ∧
        LastOver m.tableName m.associations (s.key m.tableName) s := by
      by_contra hnone
      exact hkept ⟨m, hm, fun s hs hkind htarget hlast => hnone ⟨s, hs, hkind, htarget, hlast⟩⟩
    obtain ⟨s, -, hkind, rfl, hlast⟩ := hlast
    have hemitted : s ∈ m.emitted scope.requested :=
      List.mem_filter.2 ⟨hlast.kept, List.contains_iff_mem.2 hrequested⟩
    refine ⟨m, hm, scope.link m.name s, ?_, link_single.2 hkind, ?_⟩
    · rw [resolve_links]
      exact List.mem_map_of_mem hemitted
    · rw [link_association]

/-- The links lead from one model to another where the declared associations do without a loss. -/
theorem chain_kept_iff (hne : a ≠ b) : Relation.TransGen (scope.Keeps arena) a b ↔
    Relation.TransGen (fun x y => scope.Holds arena x y ∧ ¬Loses arena x y) a b := by
  have hback : (fun x y => scope.Holds arena x y ∧ ¬Loses arena x y) ≤ scope.Keeps arena := by
    intro x y hxy
    obtain ⟨⟨_, -, _, -, -, -, hyx, -⟩, -⟩ := id hxy
    exact (keeps_iff hyx.symm).2 hxy
  have hforth : (fun x y => scope.Keeps arena x y ∧ x ≠ y) ≤
      fun x y => scope.Holds arena x y ∧ ¬Loses arena x y :=
    fun x y hxy => (keeps_iff hxy.2).1 hxy.1
  exact ⟨fun h => Relation.TransGen.mono hforth _ _ (transGen_of_ne h hne),
    fun h => Relation.TransGen.mono hback _ _ h⟩

end Scope

/-- A pointer to another model has a way back through declared associations. It has one through links
if and only if one of those loses no step, so always if nothing is lost. -/
theorem way_back_kept_iff (requested : List String) (arena : Keyed Model) (m : Model) {l : Link}
    (hl : l ∈ (Scope.resolve ⟨requested, some arena⟩ m).links) (href : l.byReference = true)
    (hne : l.association.target ≠ m.name) :
    let scope : Scope := ⟨requested, some arena⟩
    Relation.TransGen (scope.Holds arena) l.association.target m.name ∧
      (Relation.TransGen (scope.Keeps arena) l.association.target m.name ↔
        Relation.TransGen (fun a b => scope.Holds arena a b ∧ ¬Scope.Loses arena a b)
          l.association.target m.name) ∧
      ((∀ a b, scope.Holds arena a b → ¬Scope.Loses arena a b) →
        Relation.TransGen (scope.Keeps arena) l.association.target m.name) := by
  intro scope
  have hdeclared : Relation.TransGen (scope.Holds arena) l.association.target m.name := by
    rw [Scope.resolve_links] at hl
    obtain ⟨s, -, rfl⟩ := List.mem_map.1 hl
    rw [Scope.link_association] at hne ⊢
    exact (Scope.embeds_iff rfl).1 (Scope.embeds_of_byReference href hne)
  refine ⟨hdeclared, Scope.chain_kept_iff hne, fun hkept => (Scope.chain_kept_iff hne).2 ?_⟩
  have hall : scope.Holds arena ≤ fun a b => scope.Holds arena a b ∧ ¬Scope.Loses arena a b :=
    fun a b hab => ⟨hab, hkept a b hab⟩
  exact Relation.TransGen.mono hall _ _ hdeclared

/-- An association over the foreign key of orders to their customers. -/
def overCustomer (name : String) (kind : AssociationKind) (target : String) : Association where
  name
  kind
  target
  foreignKey := "customer_id"

def customerOrder : Model where
  name := "Order"
  tableName := "orders"
  associations := [overCustomer "customer" .belongsTo "Customer"]

/-- Customers with their latest order, and what else they have. -/
def customerWith (others : List Association) : Model where
  name := "Customer"
  tableName := "customers"
  associations := overCustomer "latest_order" .hasOne "Order" :: others

def ordersAnd (others : List Association) : Keyed Model :=
  [("Order", customerOrder), ("Customer", customerWith others)]

def orderScope (others : List Association) : Scope :=
  ⟨["Order", "Customer"], some (ordersAnd others)⟩

def customerLink : Link where
  association := overCustomer "customer" .belongsTo "Customer"
  targetStruct := "Customer"
  cardinality := .single
  byReference := true

theorem customerLink_mem (others : List Association) :
    customerLink ∈ ((orderScope others).resolve customerOrder).links := by
  -- The latest order is the way back that the search finds.
  have hback : (orderScope others).embeds "Customer" "Order" = true :=
    (Scope.embeds_iff rfl).2 (.single ⟨customerWith others, rfl, _, List.mem_cons_self, rfl, rfl,
      by decide, List.mem_cons_self⟩)
  have hemitted : customerOrder.emitted ["Order", "Customer"] = customerOrder.associations := by
    decide +kernel
  have hstruct : goName "Customer" = "Customer" := by decide +kernel
  rw [Scope.resolve_links, List.mem_map]
  refine ⟨overCustomer "customer" .belongsTo "Customer", hemitted ▸ List.mem_cons_self, ?_⟩
  simp [Scope.link, overCustomer, AssociationKind.isCollection, customerOrder, hback, hstruct,
    customerLink]

/-- With their latest order only, customers lead back to orders. -/
theorem latestOrder_leads_back : customerLink ∈ ((orderScope []).resolve customerOrder).links ∧
    Relation.TransGen ((orderScope []).Keeps (ordersAnd [])) "Customer" "Order" := by
  have hmem := customerLink_mem []
  refine ⟨hmem, (way_back_kept_iff _ (ordersAnd []) customerOrder hmem rfl (by decide)).2.2 ?_⟩
  rintro a b ⟨m, hm, s, hs, hkind, rfl, -, -⟩ ⟨m', hm', hlost⟩
  obtain rfl := Option.some.inj (hm.symm.trans hm')
  -- Each model declares one association, which no other can repeat.
  have hone : m.associations = [s] := by
    have hentry := Keyed.mem_of_get? hm
    simp only [ordersAnd, List.mem_cons, Prod.mk.injEq, List.not_mem_nil, or_false] at hentry
    rcases hentry with ⟨-, rfl⟩ | ⟨-, rfl⟩ <;> rw [List.mem_singleton.1 hs] <;> rfl
  exact hlost s hs hkind rfl ⟨[], [], hone, rfl, by simp⟩

/-- With all their orders over the same foreign key customers hold a slice only, but orders still
point to their customer. -/
theorem latestOrder_lost :
    let others := [overCustomer "orders" .hasMany "Order"]
    (∀ k m, (ordersAnd others).get? k = some m → m.name = k) ∧
      (∀ k ∈ (orderScope others).requested, k ∈ (ordersAnd others).keys) ∧
      (ordersAnd others).get? "Order" = some customerOrder ∧
      customerLink ∈ ((orderScope others).resolve customerOrder).links ∧
      customerLink.byReference = true ∧ customerLink.association.target ≠ customerOrder.name ∧
      ¬Relation.TransGen ((orderScope others).Keeps (ordersAnd others))
        customerLink.association.target customerOrder.name := by
  intro others
  refine ⟨fun k m hm => ?_, by decide, rfl, customerLink_mem others, rfl, by decide, fun h => ?_⟩
  · have hentry := Keyed.mem_of_get? hm
    simp only [ordersAnd, List.mem_cons, Prod.mk.injEq, List.not_mem_nil, or_false] at hentry
    rcases hentry with ⟨rfl, rfl⟩ | ⟨rfl, rfl⟩ <;> rfl
  · obtain ⟨b, ⟨m, hm, l, hl, hsingle, -⟩, -⟩ := Relation.TransGen.head'_iff.1 h
    obtain rfl : customerWith others = m := Option.some.inj hm
    have hemitted : (customerWith others).emitted (orderScope others).requested = others := by
      decide +kernel
    rw [Scope.resolve_links, hemitted] at hl
    obtain ⟨s, hs, rfl⟩ := List.mem_map.1 hl
    have hkind := Scope.link_single.1 hsingle
    rw [List.mem_singleton.1 hs] at hkind
    cases hkind

end StructGen
