import StructGen.Proofs.Discovery
/-!
# Selected classes

An identifier selects a class if this class alone is looked up by it (`Selects`). A class is told
apart from classes of its name by its full name, which an answer to an ambiguous identifier offers
for each of them. `fullName_selects`: a full name that no other class has as one of its names
selects its class unless another class has the camelized form of it, which is looked up as well and
does not stand back behind the full name itself.
-/
namespace StructGen

variable {classes : List ClassDecl} {schema? : Nat → Option (Except Refusal Model)}
  {identifier : String} {i : Nat} {decl : ClassDecl}

/-- What each declared class has, each class of the hierarchy has. -/
theorem forall_inHierarchy {p : Nat → ClassDecl → Prop}
    (h : ∀ j : Fin classes.length, p j classes[j]) :
    ∀ j d, InHierarchy classes j d → p j d := by
  intro j d hd
  obtain ⟨hlt, rfl⟩ := List.getElem?_eq_some_iff.1 hd.declared
  exact h ⟨j, hlt⟩

/-! ## Names of a class -/

/-- The text is the name, the qualified name or the full name of the class. -/
def ClassDecl.HasName (d : ClassDecl) (s : String) : Prop :=
  s = d.name ∨ s = d.qualifiedName ∨ s = d.fullName

instance (d : ClassDecl) (s : String) : Decidable (d.HasName s) :=
  inferInstanceAs (Decidable (s = d.name ∨ s = d.qualifiedName ∨ s = d.fullName))

theorem ClassDecl.hasName_fullName (d : ClassDecl) : d.HasName d.fullName :=
  .inr (.inr rfl)

theorem spells_iff : Spells identifier decl ↔
    decl.HasName (Text.trim identifier) ∨ decl.HasName (camelize identifier) := by
  simp [Spells, wantedNames, ClassDecl.HasName]

/-! ## Selection -/

/-- The identifier selects the class at position `i`: this class alone is looked up, and the answer
is the class, or that it is an abstract base. -/
structure Selects (classes : List ClassDecl) (schema? : Nat → Option (Except Refusal Model))
    (identifier : String) (i : Nat) (decl : ClassDecl) : Prop where
  alone : (Catalog.ofClasses classes schema?).lookup identifier =
    [{ position := i, decl, schema? := schema? i }]
  answer : (Catalog.ofClasses classes schema?).select identifier =
    CatalogClass.concrete { position := i, decl, schema? := schema? i }

theorem Selects.of_lookup (h : (Catalog.ofClasses classes schema?).lookup identifier =
    [{ position := i, decl, schema? := schema? i }]) :
    Selects classes schema? identifier i decl := by
  refine ⟨h, ?_⟩
  unfold Catalog.select
  rw [h]

/-- A class is selected if and only if it is spelled and no other class is. -/
theorem selects_iff (h : InHierarchy classes i decl) : Selects classes schema? identifier i decl ↔
    Spells identifier decl ∧
      ∀ j d, InHierarchy classes j d → j ≠ i → ¬Spells identifier d := by
  constructor
  · rintro ⟨halone, -⟩
    refine ⟨?_, fun j d hlisted hne hspells => ?_⟩
    · exact (mem_lookup.1 (halone ▸ List.mem_singleton_self _)).1.spells
    · have hmem : _ ∈ (Catalog.ofClasses classes schema?).lookup identifier :=
        mem_lookup_of_spelled ⟨hlisted, hspells⟩
      rw [halone, List.mem_singleton] at hmem
      exact hne (congrArg CatalogClass.position hmem)
  · rintro ⟨hspells, hothers⟩
    have hown : _ ∈ (Catalog.ofClasses classes schema?).lookup identifier :=
      mem_lookup_of_spelled ⟨h, hspells⟩
    refine .of_lookup (List.perm_singleton.1 ((List.perm_ext_iff_of_nodup
      (nodup_lookup classes schema? identifier) (List.nodup_singleton _)).2 fun k => ?_))
    rw [List.mem_singleton]
    constructor
    · intro hk
      obtain ⟨hlisted, hs⟩ := (mem_lookup.1 hk).1
      refine eq_of_position hk hown ?_
      by_contra hne
      exact hothers k.position k.decl hlisted hne hs
    · rintro rfl
      exact hown

/-- What is offered in place of an ambiguous identifier are full names of classes it spells. -/
theorem spelled_of_offered {known : List String} {s : String}
    (h : (Catalog.ofClasses classes schema?).select identifier =
      .error (.lookup identifier known true)) (hs : s ∈ known) :
    ∃ j d, Spelled classes identifier j d ∧ d.fullName = s := by
  have hanswer := select_answer classes schema? identifier
  rw [h] at hanswer
  cases hanswer with
  | ambiguous _ _ _ all => exact (all s).1 hs

/-! ## Full names -/

/-- Without white space at its ends, a full name spells its own class, and another class that does
not have it if that class has its camelized form. -/
theorem spells_fullName_iff {j : Nat} {d : ClassDecl}
    (htrim : Text.trim decl.fullName = decl.fullName)
    (hown : ∀ j d, InHierarchy classes j d → j ≠ i → ¬d.HasName decl.fullName)
    (hd : InHierarchy classes j d) (hne : j ≠ i) :
    Spells decl.fullName d ↔ d.HasName (camelize decl.fullName) := by
  rw [spells_iff, htrim]
  exact or_iff_right (hown j d hd hne)

/-- A full name that no other class has as one of its names selects its class if and only if it
spells this class and no other one. Without white space at its ends, this is so unless another class
has its camelized form as one of its names, and then it is refused as ambiguous and offered again.
All that is offered in place of an ambiguous identifier are full names. -/
theorem fullName_selects (schema? : Nat → Option (Except Refusal Model))
    (h : InHierarchy classes i decl)
    (hown : ∀ j d, InHierarchy classes j d → j ≠ i → ¬d.HasName decl.fullName) :
    (Selects classes schema? decl.fullName i decl ↔
        Spells decl.fullName decl ∧
          ∀ j d, InHierarchy classes j d → j ≠ i → ¬Spells decl.fullName d) ∧
      (Text.trim decl.fullName = decl.fullName →
        (Selects classes schema? decl.fullName i decl ↔
            ∀ j d, InHierarchy classes j d → j ≠ i → ¬d.HasName (camelize decl.fullName)) ∧
          (¬Selects classes schema? decl.fullName i decl → ∃ known, decl.fullName ∈ known ∧
            (Catalog.ofClasses classes schema?).select decl.fullName =
              .error (.lookup decl.fullName known true))) ∧
      ∀ identifier known, (Catalog.ofClasses classes schema?).select identifier =
          .error (.lookup identifier known true) →
        ∀ s ∈ known, ∃ j d, Spelled classes identifier j d ∧ d.fullName = s := by
  refine ⟨selects_iff h, fun htrim => ?_, fun _ _ hselect _ => spelled_of_offered hselect⟩
  have hspells : Spells decl.fullName decl :=
    spells_iff.2 (.inl (htrim.symm ▸ decl.hasName_fullName))
  have hselects : Selects classes schema? decl.fullName i decl ↔
      ∀ j d, InHierarchy classes j d → j ≠ i → ¬d.HasName (camelize decl.fullName) := by
    rw [selects_iff h, and_iff_right hspells]
    refine forall₄_congr fun j d hd hne => ?_
    rw [spells_fullName_iff htrim hown hd hne]
  refine ⟨hselects, fun hnot => ?_⟩
  rw [hselects] at hnot
  push Not at hnot
  obtain ⟨j, d, hd, hne, hname⟩ := hnot
  have hother := (spells_fullName_iff htrim hown hd hne).2 hname
  obtain ⟨known, hknown, hselect⟩ := (select_answer classes schema? decl.fullName).eq_ambiguous
    ⟨h, hspells⟩ ⟨hd, hother⟩ hne
  exact ⟨known, (hknown _).2 ⟨i, decl, ⟨h, hspells⟩, rfl⟩, hselect⟩

/-- An invoice is told from that of another module by its full name. -/
theorem billingInvoice_selected :
    InHierarchy recordClasses 3 (classBelow "billing" "Invoice") ∧
      Selects recordClasses recordTable? "billing.Invoice" 3 (classBelow "billing" "Invoice") := by
  have hlisted : InHierarchy recordClasses 3 (classBelow "billing" "Invoice") :=
    inHierarchy_of_base rfl List.mem_cons_self
  have hothers : ∀ j d, InHierarchy recordClasses j d → j ≠ 3 →
      ¬d.HasName "billing.Invoice" ∧ ¬d.HasName (camelize "billing.Invoice") :=
    forall_inHierarchy (by decide +kernel)
  obtain ⟨-, htrimmed, -⟩ := fullName_selects recordTable? hlisted
    fun j d hd hne => (hothers j d hd hne).1
  obtain ⟨hselects, -⟩ := htrimmed (by decide +kernel)
  exact ⟨hlisted, hselects.2 fun j d hd hne => (hothers j d hd hne).2⟩

/-- Records with an invoice of the module `billing` and one that is declared in a class `Billing`. -/
def nestedClasses : List ClassDecl :=
  [{ name := "Record", qualifiedName := "Record" }, classBelow "billing" "Invoice",
    { classBelow "app" "Invoice" with qualifiedName := "Billing.Invoice" }]

/-- No other class has the full name of the first invoice, but it is refused as ambiguous and then
offered as what tells the invoices apart. -/
theorem billingInvoice_shadowed :
    InHierarchy nestedClasses 1 (classBelow "billing" "Invoice") ∧
      (∀ j d, InHierarchy nestedClasses j d → j ≠ 1 → ¬d.HasName "billing.Invoice") ∧
      (Catalog.ofClasses nestedClasses recordTable?).select "billing.Invoice" =
        .error (.lookup "billing.Invoice" ["billing.Invoice", "app.Billing.Invoice"] true) := by
  refine ⟨inHierarchy_of_base rfl List.mem_cons_self, ?_, ?_⟩
  · exact forall_inHierarchy (by decide +kernel)
  · have hwalk : walkSubclasses nestedClasses 0 = [0, 1, 2] := by
      have hlength : nestedClasses.length = 3 := rfl
      have hrecord : subclasses nestedClasses 0 = [1, 2] := by decide
      have hfirst : subclasses nestedClasses 1 = [] := by decide
      have hsecond : subclasses nestedClasses 2 = [] := by decide
      simp [walkSubclasses, Graph.walk, hlength, hrecord, hfirst, hsecond]
    unfold Catalog.select Catalog.lookup Catalog.ofClasses
    rw [hwalk]
    rfl

end StructGen
