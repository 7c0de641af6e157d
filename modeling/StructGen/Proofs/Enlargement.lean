import StructGen.Proofs.References
import StructGen.Proofs.Representable
import StructGen.Proofs.Rerun
/-!
# Runs with more models

`struct_grows`: if a run converts all that it is asked for, then so does a run on fewer of the
models, and with more models a struct only grows. It keeps its columns, its associations to the
first models keep their names, tags and comments, and their types but that a value may become a
pointer: more models are more ways back from the target, and never fewer.
-/
namespace StructGen

/-! ## One struct among more models -/

/-- A field stays as it is, or the value of a link becomes a pointer. -/
structure Becomes (links : List Link) (f f' : GoField) : Prop where
  name : f'.name = f.name
  tag : f'.tag = f.tag
  comment : f'.comment = f.comment
  type : f'.type = f.type ∨ f'.type = "*" ++ f.type ∧
    ∃ l ∈ links, f = l.field ∧ l.cardinality = .single ∧ l.byReference = false

/-- The fields of the first conversion of a model are among those of the second: those of its
columns as they are, and those of its links in their order. -/
structure Grows (m : Model) (c c' : Conversion) : Prop where
  columns : ∃ columns, columns.map (·.name) = m.columns.map (fun col => goName col.name) ∧
    c.spec.fields = columns ++ c.resolution.links.map Link.field ∧
      c'.spec.fields = columns ++ c'.resolution.links.map Link.field
  order : (c.spec.fields.map (·.name)).Sublist (c'.spec.fields.map (·.name))
  common : ∀ f ∈ c.spec.fields, ∀ f' ∈ c'.spec.fields, f'.name = f.name →
    Becomes c.resolution.links f f'

/-- Links of one association differ at most in whether they are references. -/
theorem Link.becomes {links : List Link} {l l' : Link} (hl : l ∈ links)
    (hassociation : l'.association = l.association) (hstruct : l'.targetStruct = l.targetStruct)
    (hcardinality : l'.cardinality = l.cardinality)
    (hreference : l.byReference = true → l'.byReference = true) :
    Becomes links l.field l'.field where
  name := by rw [field, field, hassociation]
  tag := by rw [field, field, hassociation]
  comment := by rw [field, field, hassociation, hstruct]
  type := by
    change l'.fieldType = l.fieldType ∨ l'.fieldType = "*" ++ l.fieldType ∧ _
    unfold fieldType
    rw [hcardinality, hstruct]
    cases hc : l.cardinality with
    | many => exact .inl rfl
    | single =>
      cases hv : l.byReference with
      | true => simp [hreference hv]
      | false =>
        cases l'.byReference with
        | false => exact .inl rfl
        | true => exact .inr ⟨rfl, l, hl, rfl, hc, hv⟩

namespace Scope

variable {scope scope' : Scope} {arena arena' : Keyed Model}

/-- What is found among some models is found among more of them. -/
theorem embeds_mono (harena : scope.arena = some arena) (harena' : scope'.arena = some arena')
    (hmore : ∀ n ∈ scope.requested, n ∈ scope'.requested)
    (hknown : ∀ n ∈ scope.requested, arena.get? n = arena'.get? n) {a b : String}
    (ha : a ∈ scope.requested) (h : scope.embeds a b = true) : scope'.embeds a b = true :=
  (embeds_iff harena').2 (chain_of_agree hmore hknown ha ((embeds_iff harena).1 h))

theorem link_becomes {links : List Link} {model : String} {a : Association}
    (hl : scope.link model a ∈ links)
    (h : scope.embeds a.target model = true → scope'.embeds a.target model = true) :
    Becomes links (scope.link model a).field (scope'.link model a).field := by
  refine Link.becomes hl ?_ ?_ ?_ ?_
  · rw [link_association, link_association]
  · rw [link_targetStruct, link_targetStruct]
  · unfold link
    split <;> rfl
  · unfold link
    split
    · exact id
    · simp only [Bool.or_eq_true]
      exact Or.imp_right h

end Scope

/-! ## One model in two rounds -/

/-- The struct of a conversion has the fields of its columns and those of the links it emits. -/
theorem convertModel_fields {arena : Keyed Model} {names : List String} {m : Model} {c : Conversion}
    (h : convertModel arena names m = .ok c) :
    ∃ columns, m.check (m.emitted names) = .ok columns ∧
      c.resolution.links = (m.emitted names).map (Scope.link ⟨names, some arena⟩ m.name) ∧
      c.spec.fields = columns ++ c.resolution.links.map Link.field := by
  obtain ⟨columns, hcheck, hspec, hres⟩ := convertModel_eq_ok.1 h
  refine ⟨columns, hcheck, ?_, ?_⟩
  · rw [hres, Scope.resolve_links]
  · rw [hspec]
    rfl

/-- A model that is converted among some models grows among more of them. -/
theorem grows_of_convertModel {arena arena' : Keyed Model} {names names' : List String} {m : Model}
    {c c' : Conversion} (hmore : ∀ n ∈ names, n ∈ names')
    (hknown : ∀ n ∈ names, arena.get? n = arena'.get? n) (hc : convertModel arena names m = .ok c)
    (hc' : convertModel arena' names' m = .ok c') : Grows m c c' := by
  have hnodup := Model.nodup_fields (synthesize_of_convertModel hc')
  obtain ⟨columns, hcheck, hlinks, hfields⟩ := convertModel_fields hc
  obtain ⟨columns', hcheck', hlinks', hfields'⟩ := convertModel_fields hc'
  have hemitted := m.emitted_sublist hmore
  -- The check does not see the links, so it passes the same columns with fewer of them.
  obtain rfl : columns = columns' := by
    have hfewer := Model.check_sublist hemitted hcheck'
    rw [hcheck] at hfewer
    exact Except.ok.inj hfewer
  have hname : ∀ scope : Scope,
      (fun a => (scope.link m.name a).field.name) = fun a => goName a.name := by
    intro scope
    funext a
    rw [Link.field, Scope.link_association]
  constructor
  case columns => exact ⟨columns, Model.names_of_check hcheck, hfields, hfields'⟩
  case order =>
    rw [hfields, hfields', hlinks, hlinks']
    simp only [List.map_append, List.map_map, Function.comp_def, hname]
    exact (List.Sublist.refl _).append (hemitted.map _)
  case common =>
    intro f hf f' hf' hsame
    have hunique : ∀ g ∈ c'.spec.fields, g.name = f.name → g = f' := by
      intro g hg hgf
      exact List.inj_on_of_nodup_map hnodup hg hf' (hgf.trans hsame.symm)
    rw [hfields, List.mem_append, List.mem_map] at hf
    rcases hf with hf | ⟨l, hl, rfl⟩
    · obtain rfl := hunique f (by rw [hfields']; exact List.mem_append_left _ hf) rfl
      exact ⟨rfl, rfl, rfl, .inl rfl⟩
    · have hl' := hl
      rw [hlinks] at hl'
      obtain ⟨a, ha, rfl⟩ := List.mem_map.1 hl'
      have htarget := (Model.mem_emitted ha).2
      have hmono : Scope.embeds ⟨names, some arena⟩ a.target m.name = true →
          Scope.embeds ⟨names', some arena'⟩ a.target m.name = true :=
        Scope.embeds_mono rfl rfl hmore hknown htarget
      have hbecomes := Scope.link_becomes hl hmono
      obtain rfl := hunique _ (by
        rw [hfields', hlinks', List.map_map]
        exact List.mem_append_right _ (List.mem_map_of_mem (hemitted.subset ha))) hbecomes.name
      exact hbecomes

/-! ## Two runs -/

variable {settings : RunSettings} {introspect : Introspect} {ids ids' : List String}

/-- The run on `ids'` converts all that it is asked for, each model under the name it is asked for
by, and asks for all of `ids`. -/
structure Enlarges (introspect : Introspect) (ids ids' : List String) : Prop where
  more : ∀ k ∈ ids, k ∈ ids'
  named : ∀ k ∈ ids', ∀ m, introspect k = .ok m → m.name = k
  converted : ∀ k ∈ ids', k ∈ (convertedModels introspect ids').map Prod.fst

namespace Enlarges

variable (h : Enlarges introspect ids ids')
include h

theorem leads {k : String} {m : Model} (hm : (k, m) ∈ convertedModels introspect ids') :
    k ∈ ids' ∧ introspect k = .ok m := by
  obtain ⟨rfl, hholder⟩ := holder_of_converted hm
  obtain ⟨id, hid, hi⟩ := mem_schemas.1 (List.mem_of_find?_eq_some hholder)
  rw [h.named id hid m hi]
  exact ⟨hid, hi⟩

theorem survive : Survive introspect ids' ids' := by
  refine ⟨fun k => ⟨h.converted k, fun hk => ?_⟩, fun k m hm => (h.leads hm).2⟩
  obtain ⟨⟨k, m⟩, hm, rfl⟩ := List.mem_map.1 hk
  exact (h.leads hm).1

theorem schemas_subset {m : Model} (hm : m ∈ schemas introspect ids) :
    m ∈ schemas introspect ids' := by
  obtain ⟨id, hid, hi⟩ := mem_schemas.1 hm
  exact mem_schemas.2 ⟨id, h.more id hid, hi⟩

/-- What can be told apart among more models can be told apart among fewer. -/
theorem toldApart : ToldApart introspect ids where
  name m hm t ht := h.survive.toldApart.name m (h.schemas_subset hm) t (h.schemas_subset ht)
  struct m hm t ht := h.survive.toldApart.struct m (h.schemas_subset hm) t (h.schemas_subset ht)

theorem mem_arena {k : String} {m : Model} :
    (k, m) ∈ arenaOf introspect ids ↔ k ∈ ids ∧ (k, m) ∈ convertedModels introspect ids' := by
  rw [mem_arenaOf, h.toldApart.holder_eq_some, mem_schemas]
  constructor
  · rintro ⟨rfl, ⟨id, hid, hi⟩, -⟩
    have hname := h.named id (h.more id hid) m hi
    subst hname
    exact ⟨hid, h.survive.mem_of_leads (h.more _ hid) hi⟩
  · rintro ⟨hk, hm⟩
    obtain ⟨rfl, -⟩ := holder_of_converted hm
    exact ⟨rfl, ⟨m.name, hk, (h.leads hm).2⟩, rfl⟩

/-- The run on fewer models converts them all as well. -/
theorem mem_convertedModels_fewer {k : String} {m : Model} :
    (k, m) ∈ convertedModels introspect ids ↔
      k ∈ ids ∧ (k, m) ∈ convertedModels introspect ids' := by
  have hnone := faults_eq_nil_of_converted fun e he => (h.mem_arena.1 he).2
  rw [mem_convertedModels, hnone, h.mem_arena]
  exact and_iff_left List.not_mem_nil

end Enlarges

/-- With more models a struct only grows: if a run converts all the models it is asked for, each
under the name it is asked for by, then a run on some of them converts these too, and each struct
keeps its fields in the larger run. -/
theorem struct_grows (settings : RunSettings) (hmore : ∀ k ∈ ids, k ∈ ids')
    (hnamed : ∀ k ∈ ids', ∀ m, introspect k = .ok m → m.name = k)
    (hall : ∀ k ∈ ids', k ∈ (generate settings introspect ids').converted) {k : String}
    (hk : k ∈ ids) :
    ∃ m f c f' c', introspect k = .ok m ∧ Writes settings introspect ids f k c ∧
      Writes settings introspect ids' f' k c' ∧ Grows m c c' := by
  have h : Enlarges introspect ids ids' := ⟨hmore, hnamed, fun k hk => mem_converted.1 (hall k hk)⟩
  obtain ⟨⟨k, m⟩, hm', rfl⟩ := List.mem_map.1 (h.converted k (hmore k hk))
  have hm := h.mem_convertedModels_fewer.2 ⟨hk, hm'⟩
  obtain ⟨c, hc⟩ := converted_of_mem_survivors hm
  obtain ⟨c', hc'⟩ := converted_of_mem_survivors hm'
  have hfewer : ∀ n ∈ (convertedModels introspect ids).map Prod.fst,
      n ∈ (convertedModels introspect ids').map Prod.fst ∧
        (arenaOf introspect ids).get? n = (arenaOf introspect ids').get? n := by
    intro n hn
    obtain ⟨⟨n, t⟩, ht, rfl⟩ := List.mem_map.1 hn
    have ht' := (h.mem_convertedModels_fewer.1 ht).2
    have hget : ∀ {l : List String}, (n, t) ∈ convertedModels introspect l →
        (arenaOf introspect l).get? n = some t := fun ht =>
      (Keyed.get?_eq_some (nodup_arenaOf introspect _)).2 (mem_convertedModels.1 ht).1
    exact ⟨List.mem_map_of_mem ht', (hget ht).trans (hget ht').symm⟩
  have hgrows : Grows m c c' :=
    grows_of_convertModel (fun n hn => (hfewer n hn).1) (fun n hn => (hfewer n hn).2) hc hc'
  exact ⟨m, _, c, _, c', (h.leads hm').2, writes_of_converted (mem_conversions.2 ⟨m, hm, hc⟩),
    writes_of_converted (mem_conversions.2 ⟨m, hm', hc'⟩), hgrows⟩

/-- A table whose rows belong to those of another. -/
def tableOf (name tableName association target : String) : Model where
  name
  tableName
  columns := [{ name := "id", sourceType := "integer", isPrimaryKey := true }]
  associations := [{
    name := association, kind := .belongsTo, target, foreignKey := association ++ "_id" }]

/-- Employees of teams in offices that an employee runs. -/
def staff : Introspect := fun id =>
  if id = "Employee" then .ok (tableOf "Employee" "employees" "team" "Team")
  else if id = "Team" then .ok (tableOf "Team" "teams" "office" "Office")
  else if id = "Office" then .ok (tableOf "Office" "offices" "manager" "Employee")
  else .error (.lookup id ["Employee", "Team", "Office"] false)

/-- With the offices there is a way back from teams to employees. -/
theorem employees_grow :
    (∀ k ∈ ["Employee", "Team"], k ∈ ["Employee", "Team", "Office"]) ∧
      (∀ k ∈ ["Employee", "Team", "Office"], ∀ m, staff k = .ok m → m.name = k) ∧
      (∀ k ∈ ["Employee", "Team", "Office"],
        k ∈ (generate usualSettings staff ["Employee", "Team", "Office"]).converted) ∧
      ∃ m f c f' c', staff "Employee" = .ok m ∧
        Writes usualSettings staff ["Employee", "Team"] f "Employee" c ∧
        Writes usualSettings staff ["Employee", "Team", "Office"] f' "Employee" c' ∧
        Grows m c c' := by
  have hmore : ∀ k ∈ ["Employee", "Team"], k ∈ ["Employee", "Team", "Office"] := by decide
  have hnamed : ∀ k ∈ ["Employee", "Team", "Office"], ∀ m, staff k = .ok m → m.name = k := by
    intro k hk m hm
    simp only [List.mem_cons, List.not_mem_nil, or_false] at hk
    rcases hk with rfl | rfl | rfl <;> cases hm <;> rfl
  have hall : ∀ k ∈ ["Employee", "Team", "Office"],
      k ∈ (generate usualSettings staff ["Employee", "Team", "Office"]).converted := by
    decide +kernel
  exact ⟨hmore, hnamed, hall, struct_grows usualSettings hmore hnamed hall List.mem_cons_self⟩

end StructGen
