import StructGen.Introspector
import StructGen.Proofs.Report
import StructGen.Proofs.Walk
/-!
# Discovered models

A catalog is asked for a class by a text. `select_answer`: the answer is that class if the text
spells one class of the hierarchy and this one is concrete; else the answer says whether the text
spells no class, an abstract one, or several. `discovered_answer`: the name of a discovered class
spells that class at least, so it leads there unless it spells others too.
-/
namespace StructGen

/-! ## A walk visits no node twice -/

theorem Graph.nodup_walk {α : Type} [DecidableEq α] {nodes : List α} {next : α → List α}
    (seen stack : List α) :
    (walk nodes next seen stack).Nodup ∧ ∀ n ∈ walk nodes next seen stack, n ∉ seen := by
  fun_induction walk nodes next seen stack with
  | case1 => exact ⟨List.nodup_nil, by simp⟩
  | case2 seen n stack hn ih =>
    obtain ⟨hnodup, hnew⟩ := ih
    refine ⟨List.nodup_cons.2 ⟨fun hmem => hnew n hmem List.mem_cons_self, hnodup⟩, fun m hm => ?_⟩
    rcases List.mem_cons.1 hm with rfl | hm
    · exact hn.2
    · exact fun hs => hnew m hm (List.mem_cons_of_mem n hs)
  | case3 seen n stack _ ih => exact ih

/-! ## The classes of a hierarchy -/

variable {classes : List ClassDecl} {schema? : Nat → Option (Except Refusal Model)}

/-- The class at `j` has the one at `i` as a base. -/
def HasBase (classes : List ClassDecl) (i j : Nat) : Prop :=
  ∃ decl, classes[j]? = some decl ∧ i ∈ decl.bases

theorem edge_iff {i j : Nat} :
    Graph.Edge (List.range classes.length) (subclasses classes) i j ↔ HasBase classes i j := by
  unfold Graph.Edge subclasses HasBase
  simp only [List.mem_filter, List.mem_range]
  constructor
  · rintro ⟨⟨-, hbase⟩, -⟩
    cases hj : classes[j]? with
    | none => simp [hj] at hbase
    | some decl => exact ⟨decl, rfl, by simpa [hj] using hbase⟩
  · rintro ⟨decl, hj, hbase⟩
    have hlt := (List.getElem?_eq_some_iff.1 hj).1
    exact ⟨⟨hlt, by simpa [hj] using hbase⟩, hlt⟩

theorem edge_eq_hasBase :
    Graph.Edge (List.range classes.length) (subclasses classes) = HasBase classes := by
  funext i j
  exact propext edge_iff

/-- The class declared at a position is the first one or below it. -/
structure InHierarchy (classes : List ClassDecl) (i : Nat) (decl : ClassDecl) : Prop where
  declared : classes[i]? = some decl
  below : Relation.ReflTransGen (HasBase classes) 0 i

theorem mem_classes {k : CatalogClass} : k ∈ (Catalog.ofClasses classes schema?).classes ↔
    InHierarchy classes k.position k.decl ∧ k.schema? = schema? k.position := by
  unfold Catalog.ofClasses
  simp only [List.mem_filterMap, Option.map_eq_some_iff, walkSubclasses, Graph.mem_walk_iff,
    edge_eq_hasBase, List.mem_singleton, exists_eq_left, List.mem_range]
  constructor
  · rintro ⟨i, ⟨-, hi⟩, decl, hdecl, rfl⟩
    exact ⟨⟨hdecl, hi⟩, rfl⟩
  · rintro ⟨⟨hdecl, hi⟩, hschema⟩
    have hlt := (List.getElem?_eq_some_iff.1 hdecl).1
    exact ⟨k.position, ⟨by omega, hi⟩, k.decl, hdecl, by rw [← hschema]⟩

/-- A class is listed once. -/
theorem nodup_classes (classes : List ClassDecl) (schema? : Nat → Option (Except Refusal Model)) :
    (Catalog.ofClasses classes schema?).classes.Nodup := by
  refine List.Nodup.filterMap (fun i j k hi hj => ?_) (Graph.nodup_walk [] [0]).1
  obtain ⟨_, -, rfl⟩ := Option.map_eq_some_iff.1 hi
  obtain ⟨_, -, hk⟩ := Option.map_eq_some_iff.1 hj
  exact (congrArg CatalogClass.position hk).symm

/-! ## What an identifier spells -/

/-- An identifier spells a class if, trimmed or camelized, it is a name of the class. -/
def Spells (identifier : String) (decl : ClassDecl) : Prop :=
  ∃ wanted ∈ wantedNames identifier,
    wanted = decl.name ∨ wanted = decl.qualifiedName ∨ wanted = decl.fullName

instance (identifier : String) (decl : ClassDecl) : Decidable (Spells identifier decl) :=
  inferInstanceAs (Decidable (∃ wanted ∈ wantedNames identifier, _))

/-- The class at position `i` of a hierarchy is spelled by the identifier. -/
structure Spelled (classes : List ClassDecl) (identifier : String) (i : Nat) (decl : ClassDecl) :
    Prop where
  listed : InHierarchy classes i decl
  spells : Spells identifier decl

theorem mem_lookup {identifier : String} {k : CatalogClass} :
    k ∈ (Catalog.ofClasses classes schema?).lookup identifier ↔
      Spelled classes identifier k.position k.decl ∧ k.schema? = schema? k.position := by
  have hspells : (wantedNames identifier).any k.isNamed = true ↔ Spells identifier k.decl := by
    simp [Spells, CatalogClass.isNamed, or_assoc]
  rw [Catalog.lookup, List.mem_filter, mem_classes, hspells]
  exact ⟨fun ⟨⟨hlisted, hschema⟩, hs⟩ => ⟨⟨hlisted, hs⟩, hschema⟩,
    fun ⟨⟨hlisted, hs⟩, hschema⟩ => ⟨⟨hlisted, hschema⟩, hs⟩⟩

theorem nodup_lookup (classes : List ClassDecl) (schema? : Nat → Option (Except Refusal Model))
    (identifier : String) : ((Catalog.ofClasses classes schema?).lookup identifier).Nodup :=
  (nodup_classes classes schema?).filter _

theorem mem_lookup_of_spelled {identifier : String} {i : Nat} {decl : ClassDecl}
    (h : Spelled classes identifier i decl) :
    { position := i, decl, schema? := schema? i } ∈
      (Catalog.ofClasses classes schema?).lookup identifier :=
  mem_lookup.2 ⟨h, rfl⟩

/-- The answer to an identifier: the class, if it spells one and this is concrete, or what is in the
way. -/
inductive Answer (classes : List ClassDecl) (schema? : Nat → Option (Except Refusal Model))
    (identifier : String) : Except Fault CatalogClass → Prop
  | concrete {i : Nat} {decl : ClassDecl} {schema : Except Refusal Model}
      (only : ∀ j d, Spelled classes identifier j d ↔ j = i ∧ d = decl)
      (declares : schema? i = some schema) :
      Answer classes schema? identifier (.ok { position := i, decl, schema? := some schema })
  | abstract {i : Nat} {decl : ClassDecl}
      (only : ∀ j d, Spelled classes identifier j d ↔ j = i ∧ d = decl)
      (declares : schema? i = none) :
      Answer classes schema? identifier (.error (.notConcrete decl.name "abstract base"))
  | unknown (none : ∀ j d, ¬Spelled classes identifier j d) :
      Answer classes schema? identifier
        (.error (.lookup identifier (Catalog.ofClasses classes schema?).discover false))
  | ambiguous {i j : Nat} {decl d : ClassDecl} {known : List String}
      (first : Spelled classes identifier i decl) (second : Spelled classes identifier j d)
      (differ : i ≠ j)
      (all : ∀ s, s ∈ known ↔ ∃ j d, Spelled classes identifier j d ∧ d.fullName = s) :
      Answer classes schema? identifier (.error (.lookup identifier known true))

/-- What is listed at one position is one class. -/
theorem eq_of_position {identifier : String} {k k' : CatalogClass}
    (h : k ∈ (Catalog.ofClasses classes schema?).lookup identifier)
    (h' : k' ∈ (Catalog.ofClasses classes schema?).lookup identifier)
    (hposition : k.position = k'.position) : k = k' := by
  obtain ⟨hk, hs⟩ := mem_lookup.1 h
  obtain ⟨hk', hs'⟩ := mem_lookup.1 h'
  have hdecl : k.decl = k'.decl := by
    have hsame := hk.listed.declared
    rw [hposition, hk'.listed.declared] at hsame
    exact (Option.some.inj hsame).symm
  cases k
  cases k'
  simp_all

/-- A catalog answers by what the identifier spells. -/
theorem select_answer (classes : List ClassDecl) (schema? : Nat → Option (Except Refusal Model))
    (identifier : String) :
    Answer classes schema? identifier ((Catalog.ofClasses classes schema?).select identifier) := by
  have hall : ∀ j d, Spelled classes identifier j d ↔ ∃ k ∈
      (Catalog.ofClasses classes schema?).lookup identifier, k.position = j ∧ k.decl = d := by
    refine fun j d => ⟨fun h => ⟨_, mem_lookup_of_spelled h, rfl, rfl⟩, ?_⟩
    rintro ⟨k, hk, rfl, rfl⟩
    exact (mem_lookup.1 hk).1
  unfold Catalog.select
  cases hl : (Catalog.ofClasses classes schema?).lookup identifier with
  | nil =>
    refine .unknown fun j d h => ?_
    obtain ⟨k, hk, -⟩ := (hall j d).1 h
    rw [hl] at hk
    cases hk
  | cons k rest =>
    have hk : k ∈ (Catalog.ofClasses classes schema?).lookup identifier := by simp [hl]
    cases rest with
    | nil =>
      have honly : ∀ j d, Spelled classes identifier j d ↔ j = k.position ∧ d = k.decl := by
        intro j d
        simp [hall, hl, eq_comm]
      have hschema := (mem_lookup.1 hk).2
      obtain ⟨i, decl, declared⟩ := k
      cases declared with
      | none => exact .abstract honly hschema.symm
      | some schema => exact .concrete honly hschema.symm
    | cons k' rest =>
      have hk' : k' ∈ (Catalog.ofClasses classes schema?).lookup identifier := by simp [hl]
      have hdiffer : k.position ≠ k'.position := by
        intro hsame
        have hnodup := nodup_lookup classes schema? identifier
        rw [hl] at hnodup
        obtain rfl := eq_of_position hk hk' hsame
        simp at hnodup
      refine .ambiguous (mem_lookup.1 hk).1 (mem_lookup.1 hk').1 hdiffer fun s => ?_
      rw [List.mem_map]
      constructor
      · rintro ⟨n, hn, rfl⟩
        exact ⟨n.position, n.decl, (hall _ _).2 ⟨n, hl ▸ hn, rfl, rfl⟩, rfl⟩
      · rintro ⟨j, d, hspelled, rfl⟩
        obtain ⟨n, hn, -, rfl⟩ := (hall j d).1 hspelled
        exact ⟨n, hl ▸ hn, rfl⟩

namespace Answer

variable {identifier : String} {answer : Except Fault CatalogClass} {i : Nat} {decl : ClassDecl}

/-- A class that is spelled alone and concrete is the answer. -/
theorem eq_ok (h : Answer classes schema? identifier answer)
    (hconcrete : (schema? i).isSome = true)
    (only : ∀ j d, Spelled classes identifier j d ↔ j = i ∧ d = decl) :
    answer = .ok { position := i, decl, schema? := schema? i } := by
  have hself := (only i decl).2 ⟨rfl, rfl⟩
  cases h with
  | concrete only' declares =>
    obtain ⟨rfl, rfl⟩ := (only' i decl).1 hself
    rw [declares]
  | abstract only' declares =>
    obtain ⟨rfl, rfl⟩ := (only' i decl).1 hself
    rw [declares] at hconcrete
    cases hconcrete
  | unknown none => exact absurd hself (none i decl)
  | ambiguous first second differ _ =>
    exact absurd (((only _ _).1 first).1.trans ((only _ _).1 second).1.symm) differ

/-- Where two classes are spelled, all that are spelled are named. -/
theorem eq_ambiguous (h : Answer classes schema? identifier answer) {j : Nat} {d : ClassDecl}
    (hi : Spelled classes identifier i decl) (hj : Spelled classes identifier j d) (hne : j ≠ i) :
    ∃ known, (∀ s, s ∈ known ↔ ∃ j d, Spelled classes identifier j d ∧ d.fullName = s) ∧
      answer = .error (.lookup identifier known true) := by
  cases h with
  | concrete only _ => exact absurd (((only _ _).1 hj).1.trans ((only _ _).1 hi).1.symm) hne
  | abstract only _ => exact absurd (((only _ _).1 hj).1.trans ((only _ _).1 hi).1.symm) hne
  | unknown none => exact absurd hi (none i decl)
  | ambiguous _ _ _ all => exact ⟨_, all, rfl⟩

/-- An identifier is answered by a class if and only if it spells one class and this is concrete. -/
theorem isOk_iff (h : Answer classes schema? identifier answer) : (∃ k, answer = .ok k) ↔
    ∃ i decl, (schema? i).isSome = true ∧
      ∀ j d, Spelled classes identifier j d ↔ j = i ∧ d = decl := by
  constructor
  · rintro ⟨k, rfl⟩
    cases h with
    | @concrete i decl _ only declares => exact ⟨i, decl, by simp [declares], only⟩
  · rintro ⟨i, decl, hconcrete, only⟩
    exact ⟨_, h.eq_ok hconcrete only⟩

end Answer

/-! ## What is discovered -/

theorem mem_discover {name : String} : name ∈ (Catalog.ofClasses classes schema?).discover ↔
    ∃ i decl, InHierarchy classes i decl ∧ (schema? i).isSome = true ∧ decl.name = name := by
  unfold Catalog.discover Text.sorted
  simp only [List.mem_mergeSort, List.mem_map, List.mem_filter, mem_classes,
    CatalogClass.isAbstract, Bool.not_eq_true', Option.isNone_eq_false_iff]
  constructor
  · rintro ⟨k, ⟨⟨hlisted, hschema⟩, hconcrete⟩, rfl⟩
    exact ⟨k.position, k.decl, hlisted, hschema ▸ hconcrete, rfl⟩
  · rintro ⟨i, decl, hlisted, hconcrete, rfl⟩
    exact ⟨⟨i, decl, schema? i⟩, ⟨⟨hlisted, rfl⟩, hconcrete⟩, rfl⟩

/-- A class is spelled by its name, unless there is white space at its ends. -/
theorem spells_name {decl : ClassDecl} {name : String} (h : Text.trim name = name)
    (hname : decl.name = name) : Spells name decl :=
  ⟨name, by simp [wantedNames, h], .inl hname.symm⟩

/-- A name that the run on all discovered models cannot look up is reported with the reason. -/
theorem reported_of_select {c : Catalog} {settings : RunSettings} {r : RunResult} {name : String}
    {fault : Fault} (hrun : c.introspector.run settings none = .ok r) (hname : name ∈ c.discover)
    (hselect : c.select name = .error fault) : Diagnostic.ofFault name fault ∈ r.diagnostics := by
  have hlookup : c.introspector.lookup name = .error fault := by
    simp [Introspector.lookup, Catalog.introspector, hselect, Catalog.schemaOf, Except.mapError,
      Refusal.toFault]
  unfold Introspector.run at hrun
  simp only [Option.getD_none] at hrun
  split at hrun
  · cases hrun
  · split at hrun
    · cases hrun
    · cases hrun
      refine mem_diagnostics.2 (List.mem_append_left _ (List.mem_append_left _ ?_))
      refine mem_refusals.2 ⟨hname, fault, ?_, rfl⟩
      simp only [refusal?, Diagnostic.ofFault, hlookup]

/-- The name of a discovered class is answered by a class if and only if it spells one class of the
hierarchy and this is concrete. A name without white space at its ends spells its own class, so it
is answered by it unless it spells others as well, which are all named then. A run on all discovered
models reports each of them that it cannot look up. -/
theorem discovered_answer {name : String}
    (hname : name ∈ (Catalog.ofClasses classes schema?).discover) :
    ((∃ k, (Catalog.ofClasses classes schema?).select name = .ok k) ↔
        ∃ i decl, (schema? i).isSome = true ∧
          ∀ j d, Spelled classes name j d ↔ j = i ∧ d = decl) ∧
      (Text.trim name = name → ∃ i decl, decl.name = name ∧ (schema? i).isSome = true ∧
        Spelled classes name i decl ∧
        ((∀ j d, Spelled classes name j d → j = i) →
          (Catalog.ofClasses classes schema?).select name =
              .ok { position := i, decl, schema? := schema? i } ∧
            some ((Catalog.ofClasses classes schema?).introspector.introspect name) = schema? i) ∧
        ((∃ j d, Spelled classes name j d ∧ j ≠ i) →
          ∃ known, (∀ s, s ∈ known ↔ ∃ j d, Spelled classes name j d ∧ d.fullName = s) ∧
            (Catalog.ofClasses classes schema?).select name = .error (.lookup name known true))) ∧
      ∀ settings r, (Catalog.ofClasses classes schema?).introspector.run settings none = .ok r →
        ∀ fault, (Catalog.ofClasses classes schema?).select name = .error fault →
          Diagnostic.ofFault name fault ∈ r.diagnostics := by
  have hanswer := select_answer classes schema? name
  refine ⟨hanswer.isOk_iff, fun htrim => ?_,
    fun settings r hrun fault hselect => reported_of_select hrun hname hselect⟩
  obtain ⟨i, decl, hlisted, hconcrete, rfl⟩ := mem_discover.1 hname
  have hown : Spelled classes decl.name i decl := ⟨hlisted, spells_name htrim rfl⟩
  refine ⟨i, decl, rfl, hconcrete, hown, fun halone => ?_, fun ⟨j, d, hother, hne⟩ =>
    hanswer.eq_ambiguous hown hother hne⟩
  have honly : ∀ j d, Spelled classes decl.name j d ↔ j = i ∧ d = decl := by
    refine fun j d => ⟨fun h => ?_, fun h => h.1 ▸ h.2 ▸ hown⟩
    obtain rfl := halone j d h
    have hsame := h.listed.declared
    rw [hlisted.declared] at hsame
    exact ⟨rfl, (Option.some.inj hsame).symm⟩
  have hselect := hanswer.eq_ok hconcrete honly
  refine ⟨hselect, ?_⟩
  obtain ⟨schema, hschema⟩ := Option.isSome_iff_exists.1 hconcrete
  simp [Catalog.introspector, hselect, Catalog.schemaOf, CatalogClass.schema, hschema]

theorem inHierarchy_of_base {i : Nat} {decl : ClassDecl} (h : classes[i]? = some decl)
    (hbase : 0 ∈ decl.bases) : InHierarchy classes i decl :=
  ⟨h, .single ⟨decl, h, hbase⟩⟩

/-- A class right below the first one. -/
def classBelow (moduleName name : String) : ClassDecl where
  name
  moduleName
  qualifiedName := name
  bases := [0]

/-- Records, of which two are invoices of different modules and one has a space in its name. -/
def recordClasses : List ClassDecl :=
  [{ name := "Record", qualifiedName := "Record" }, classBelow "app" "LineItem",
    classBelow "app" "Invoice", classBelow "billing" "Invoice", classBelow "app" " Draft"]

/-- The tables of records; the first class has none. -/
def recordTable? (i : Nat) : Option (Except Refusal Model) :=
  if i = 0 then none else some (.ok { name := "Record", tableName := "records" })

/-- The class of line items is the only one of its name. -/
theorem lineItem_resolves : "LineItem" ∈ (Catalog.ofClasses recordClasses recordTable?).discover ∧
    ∃ k, (Catalog.ofClasses recordClasses recordTable?).select "LineItem" = .ok k := by
  have hlisted : InHierarchy recordClasses 1 (classBelow "app" "LineItem") :=
    inHierarchy_of_base rfl List.mem_cons_self
  have hname : "LineItem" ∈ (Catalog.ofClasses recordClasses recordTable?).discover :=
    mem_discover.2 ⟨1, _, hlisted, rfl, rfl⟩
  have hothers : ∀ j : Fin recordClasses.length, Spells "LineItem" recordClasses[j] →
      j.val = 1 ∧ recordClasses[j] = classBelow "app" "LineItem" := by
    decide +kernel
  obtain ⟨hresolves, -, -⟩ := discovered_answer hname
  refine ⟨hname, hresolves.2 ⟨1, classBelow "app" "LineItem", rfl, fun j d => ⟨fun h => ?_, ?_⟩⟩⟩
  · obtain ⟨hlt, rfl⟩ := List.getElem?_eq_some_iff.1 h.listed.declared
    exact hothers ⟨j, hlt⟩ h.spells
  · rintro ⟨rfl, rfl⟩
    exact ⟨hlisted, spells_name (by decide) rfl⟩

/-- Two classes are discovered by a name that resolves to neither, and a third by one that is not
found, since it is trimmed. -/
theorem discovered_unresolved :
    ("Invoice" ∈ (Catalog.ofClasses recordClasses recordTable?).discover ∧
        ∀ k, (Catalog.ofClasses recordClasses recordTable?).select "Invoice" ≠ .ok k) ∧
      " Draft" ∈ (Catalog.ofClasses recordClasses recordTable?).discover ∧
        ∀ k, (Catalog.ofClasses recordClasses recordTable?).select " Draft" ≠ .ok k := by
  have hfirst : InHierarchy recordClasses 2 (classBelow "app" "Invoice") :=
    inHierarchy_of_base rfl List.mem_cons_self
  have hsecond : InHierarchy recordClasses 3 (classBelow "billing" "Invoice") :=
    inHierarchy_of_base rfl List.mem_cons_self
  have hdraft : InHierarchy recordClasses 4 (classBelow "app" " Draft") :=
    inHierarchy_of_base rfl List.mem_cons_self
  have hnone : ∀ j : Fin recordClasses.length, ¬Spells " Draft" recordClasses[j] := by
    decide +kernel
  refine ⟨⟨mem_discover.2 ⟨2, _, hfirst, rfl, rfl⟩, fun k hk => ?_⟩,
    mem_discover.2 ⟨4, _, hdraft, rfl, rfl⟩, fun k hk => ?_⟩
  · obtain ⟨i, decl, -, honly⟩ := (select_answer _ _ "Invoice").isOk_iff.1 ⟨k, hk⟩
    have htwo := (honly 2 _).1 ⟨hfirst, spells_name (by decide) rfl⟩
    have hthree := (honly 3 _).1 ⟨hsecond, spells_name (by decide) rfl⟩
    omega
  · obtain ⟨i, decl, -, honly⟩ := (select_answer _ _ " Draft").isOk_iff.1 ⟨k, hk⟩
    have hspelled := (honly i decl).2 ⟨rfl, rfl⟩
    obtain ⟨hlt, rfl⟩ := List.getElem?_eq_some_iff.1 hspelled.listed.declared
    exact hnone ⟨i, hlt⟩ hspelled.spells

end StructGen
