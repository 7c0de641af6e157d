import StructGen.Proofs.FieldSettings
import StructGen.Proofs.FileOutline
import StructGen.Proofs.ForeignKeys
import StructGen.Proofs.References
import StructGen.Proofs.Representable
/-!
# Foreign keys in tags

The tag of an association's field names a field by the name of the foreign key. `foreignKeys_found`:
if the foreign keys of a run's schemas are columns, then, as the files of the run read, that field is
there: in the struct itself for an association to an owner, in the file of the target for one to what
is owned.
-/
namespace StructGen

variable {settings : RunSettings} {introspect : Introspect} {ids : List String}

/-! ## Foreign keys in tags -/

/-- The foreign key that a tag names. -/
def foreignKeyIn (tag : String) : Option String :=
  ((lookupTag "gorm" tag).map readSettings).bind fun settings =>
    settings.findSome? (Outline.after? "foreignKey:")

theorem Link.foreignKeyIn_field {l : Link} (h : l.association.kind ≠ .manyToMany) :
    foreignKeyIn l.field.tag = some (goName l.association.foreignKey) := by
  have hread := l.settings_read_iff.2 fun hjoin => absurd hjoin h
  have hintended : l.association.intended = [.foreignKey l.association.foreignKey] := by
    unfold Association.intended
    split
    · next hjoin => exact absurd hjoin h
    · rfl
  rw [hintended] at hread
  unfold GoField.settings? at hread
  rw [foreignKeyIn, hread]
  simp [Setting.text, Outline.after?_append]

/-! ## Runs -/

/-- The names of the fields of a struct that was read. -/
def Outline.fieldNames (o : Outline) : List String :=
  o.fields.map Prod.fst

/-- The foreign key in the tag of a link's field is that of its association, and is the name of a
field: of the same struct `o`, if the model belongs to its target, and of the struct in the target's
file, if it owns the target. -/
def KeyFound (r : RunResult) (o : Outline) (l : Link) (tag : String) : Prop :=
  let key := goName l.association.foreignKey
  match l.association.kind with
  | .belongsTo => foreignKeyIn tag = some key ∧ key ∈ o.fieldNames
  | .hasOne | .hasMany => foreignKeyIn tag = some key ∧
      ∃ g target, r.file? l.association.target = some g ∧
        readFile (linesOf g.content) = some target ∧ target.structName = l.targetStruct ∧
        key ∈ target.fieldNames
  | .manyToMany => True

/-- A run gives out the file of each model that it writes. -/
theorem Writes.file?_eq {f : GeneratedFile} {k : String} {c : Conversion}
    (h : Writes settings introspect ids f k c) :
    (generate settings introspect ids).file? k = some f := by
  unfold RunResult.file?
  cases hfound : (generate settings introspect ids).files.find? (·.model = some k) with
  | none =>
    have hmodel : f.model = some k := by
      rw [h.shows]
      rfl
    simpa [hmodel] using List.find?_eq_none.1 hfound f h.written
  | some g =>
    have hmodel : g.model = some k := by simpa using List.find?_some hfound
    obtain ⟨d, hg⟩ := writes_of_model (List.mem_of_find?_eq_some hfound) hmodel
    rw [h.shows, hg.shows,
      Keyed.eq_of_mem (nodup_conversions introspect ids) h.converted hg.converted]

/-- The file of a model reads as the struct of its schema, with a field for each column and link. -/
theorem Writes.readFile {f : GeneratedFile} {k : String} {c : Conversion}
    (h : Writes settings introspect ids f k c) :
    ∃ m o, (k, m) ∈ convertedModels introspect ids ∧ readFile (linesOf f.content) = some o ∧
      o.structName = goName k ∧ o.fieldNames = m.fieldNames c.resolution.links ∧
      o.fields.drop m.columns.length =
        c.resolution.links.map fun l => (l.field.name, l.field.type, l.field.tag) := by
  obtain ⟨m, hm, hconv⟩ := mem_conversions.1 h.converted
  have hsynthesize := synthesize_of_convertModel hconv
  obtain ⟨columns, hcheck, hspec, hres⟩ := convertModel_eq_ok.1 hconv
  have hfits : ∀ g ∈ c.spec.fields, g.FitsLine := by
    refine fitsLine_of_synthesize hsynthesize fun l hl => ?_
    rw [hres] at hl
    exact ⟨_, Scope.targetStruct_of_mem_links hl⟩
  have hname : IsOneLine c.spec.name := by
    rw [h.struct_name]
    exact isOneLine_of_isWordChar (goName_chars k)
  obtain ⟨package, hread⟩ := c.spec.readFile_render hname hfits settings.package
  refine ⟨m, c.spec.outline package, hm, ?_, h.struct_name, ?_, ?_⟩
  · rw [h.shows]
    exact hread
  · rw [← Model.names_of_synthesize hsynthesize]
    simp [GoStruct.outline, Outline.fieldNames]
  · rw [hspec]
    simp [GoStruct.outline, Model.struct, ← Model.length_of_check hcheck]

/-- The links of a written model are over associations of its schema, to structs of their targets. -/
theorem Writes.link_spec {f : GeneratedFile} {k : String} {c : Conversion}
    (h : Writes settings introspect ids f k c) {m : Model}
    (hm : (k, m) ∈ convertedModels introspect ids) {l : Link} (hl : l ∈ c.resolution.links) :
    l.association ∈ m.associations ∧ l.targetStruct = goName l.association.target := by
  obtain ⟨m', columns, hm', -, -, -, hres⟩ := conversion_spec h.converted
  obtain rfl := Keyed.eq_of_mem (nodup_convertedModels introspect ids) hm hm'
  rw [hres] at hl
  refine ⟨?_, Scope.targetStruct_of_mem_links hl⟩
  rw [Scope.resolve_links] at hl
  obtain ⟨a, ha, rfl⟩ := List.mem_map.1 hl
  rw [Scope.link_association]
  exact (Model.mem_emitted ha).1

/-- A column gives its struct a field, whatever the links are. -/
theorem Model.goName_mem_fieldNames {m : Model} {name : String}
    (h : name ∈ m.columns.map (·.name)) (links : List Link) :
    goName name ∈ m.fieldNames links := by
  obtain ⟨c, hc, rfl⟩ := List.mem_map.1 h
  exact List.mem_append_left _ (List.mem_map_of_mem hc)

section

variable {f : GeneratedFile} {k : String} {c : Conversion} {m : Model} {l : Link}

/-- The foreign key of an association to an owner is found in the struct itself. -/
theorem Writes.key_own (h : Writes settings introspect ids f k c)
    (hkeys : KeysAreColumns introspect ids) (hm : (k, m) ∈ convertedModels introspect ids)
    (hl : l ∈ c.resolution.links) (hkind : l.association.kind = .belongsTo) :
    goName l.association.foreignKey ∈ m.fieldNames c.resolution.links := by
  have hcolumn := hkeys.own (mem_convertedModels.1 hm).1 (h.link_spec hm hl).1 hkind
  exact Model.goName_mem_fieldNames hcolumn _

/-- The foreign key of an association to what is owned is found in the file of the target. -/
theorem Writes.key_target (h : Writes settings introspect ids f k c)
    (hkeys : KeysAreColumns introspect ids) (hm : (k, m) ∈ convertedModels introspect ids)
    (hl : l ∈ c.resolution.links)
    (hkind : l.association.kind = .hasOne ∨ l.association.kind = .hasMany) :
    ∃ g target, (generate settings introspect ids).file? l.association.target = some g ∧
      StructGen.readFile (linesOf g.content) = some target ∧ target.structName = l.targetStruct ∧
      goName l.association.foreignKey ∈ target.fieldNames := by
  obtain ⟨hassociation, htarget⟩ := h.link_spec hm hl
  obtain ⟨g, d, hg⟩ := target_written h hl
  obtain ⟨t, target, ht, hread, hstruct, hnames, -⟩ := hg.readFile
  have hcolumn := hkeys.targets (mem_convertedModels.1 hm).1 hassociation hkind
    (mem_convertedModels.1 ht).1
  refine ⟨g, target, hg.file?_eq, hread, hstruct.trans htarget.symm, ?_⟩
  rw [hnames]
  exact Model.goName_mem_fieldNames hcolumn _

theorem Writes.keyFound (h : Writes settings introspect ids f k c)
    (hkeys : KeysAreColumns introspect ids) (hm : (k, m) ∈ convertedModels introspect ids)
    {o : Outline} (ho : o.fieldNames = m.fieldNames c.resolution.links)
    (hl : l ∈ c.resolution.links) :
    KeyFound (generate settings introspect ids) o l l.field.tag := by
  have htag : l.association.kind ≠ .manyToMany →
      foreignKeyIn l.field.tag = some (goName l.association.foreignKey) := l.foreignKeyIn_field
  unfold KeyFound
  split
  · next hkind =>
    rw [ho]
    exact ⟨htag (by simp [hkind]), h.key_own hkeys hm hl hkind⟩
  · next hkind => exact ⟨htag (by simp [hkind]), h.key_target hkeys hm hl (.inl hkind)⟩
  · next hkind => exact ⟨htag (by simp [hkind]), h.key_target hkeys hm hl (.inr hkind)⟩
  · trivial

end

/-- Every foreign key that a tag names is found among the fields that are read from the files of the
run, if the foreign keys of the schemas are columns, as they are in the schemas of record models of
different names. -/
theorem foreignKeys_found (settings : RunSettings) (introspect : Introspect) (ids : List String) :
    (KeysAreColumns introspect ids →
      ∀ f ∈ (generate settings introspect ids).files, ∀ k, f.model = some k →
        ∃ c m o, Writes settings introspect ids f k c ∧ (k, m) ∈ convertedModels introspect ids ∧
          readFile (linesOf f.content) = some o ∧ o.structName = goName k ∧
          o.fieldNames = m.fieldNames c.resolution.links ∧
          List.Forall₂ (fun l field => field.1 = goName l.association.name ∧
              KeyFound (generate settings introspect ids) o l field.2.2)
            c.resolution.links (o.fields.drop m.columns.length)) ∧
      ∀ (models : Declared.RecordModels) (abstract : List String),
        (models.map (·.decl.name)).Nodup →
          introspect = (models.catalog abstract).introspector.lookup →
            KeysAreColumns introspect ids := by
  refine ⟨fun hkeys f hf k hk => ?_, ?_⟩
  · obtain ⟨c, hw⟩ := writes_of_model hf hk
    obtain ⟨m, o, hm, hread, hstruct, hnames, hlinks⟩ := hw.readFile
    refine ⟨c, m, o, hw, hm, hread, hstruct, hnames, ?_⟩
    rw [hlinks, List.forall₂_map_right_iff, List.forall₂_same]
    exact fun l hl => ⟨rfl, hw.keyFound hkeys hm hnames hl⟩
  · rintro models abstract hnames rfl
    exact Declared.RecordModels.keysAreColumns hnames abstract ids

/-- Customers, and orders that refer to them: each order by a column `customer_id`. -/
def orderRecords : Declared.RecordModels := .ofDecls [
  { name := "Customer", table := "customers", qualifiedName := "Customer" },
  { name := "Order", table := "orders", qualifiedName := "Order",
    fields := [{ name := "customer", type := .reference "Customer" none "orders" }] }] []

theorem walk_orderRecords : walkSubclasses (orderRecords.map (·.decl)) 0 = [0, 1, 2] := by
  have hlength : (orderRecords.map (·.decl)).length = 3 := by decide +kernel
  have hroot : subclasses (orderRecords.map (·.decl)) 0 = [1, 2] := by decide +kernel
  have hcustomer : subclasses (orderRecords.map (·.decl)) 1 = [] := by decide +kernel
  have horder : subclasses (orderRecords.map (·.decl)) 2 = [] := by decide +kernel
  generalize orderRecords.map (·.decl) = classes at *
  simp [walkSubclasses, Graph.walk, hlength, hroot, hcustomer, horder]

/-- Both models are written with a link over `customer_id`. -/
theorem orderRecords_found :
    (orderRecords.map (·.decl.name)).Nodup ∧
      (generate usualSettings (orderRecords.catalog []).introspector.lookup
        ["Customer", "Order"]).converted = ["Customer", "Order"] ∧
      ((secondPass (orderRecords.catalog []).introspector.lookup ["Customer", "Order"]).conversions.map
        fun e => e.2.resolution.links.map (·.association.foreignKey)) =
          [["customer_id"], ["customer_id"]] ∧
      ∀ f ∈ (generate usualSettings (orderRecords.catalog []).introspector.lookup
          ["Customer", "Order"]).files, ∀ k, f.model = some k →
        ∃ c m o, Writes usualSettings (orderRecords.catalog []).introspector.lookup
            ["Customer", "Order"] f k c ∧
          (k, m) ∈ convertedModels (orderRecords.catalog []).introspector.lookup
            ["Customer", "Order"] ∧
          readFile (linesOf f.content) = some o ∧ o.structName = goName k ∧
          o.fieldNames = m.fieldNames c.resolution.links ∧
          List.Forall₂ (fun l field => field.1 = goName l.association.name ∧
              KeyFound (generate usualSettings (orderRecords.catalog []).introspector.lookup
                ["Customer", "Order"]) o l field.2.2)
            c.resolution.links (o.fields.drop m.columns.length) := by
  have hnames : (orderRecords.map (·.decl.name)).Nodup := by decide +kernel
  obtain ⟨hfound, hrecords⟩ := foreignKeys_found usualSettings
    (orderRecords.catalog []).introspector.lookup ["Customer", "Order"]
  have hwritten : (generate usualSettings (orderRecords.catalog []).introspector.lookup
        ["Customer", "Order"]).converted = ["Customer", "Order"] ∧
      ((secondPass (orderRecords.catalog []).introspector.lookup ["Customer", "Order"]).conversions.map
        fun e => e.2.resolution.links.map (·.association.foreignKey)) =
          [["customer_id"], ["customer_id"]] := by
    unfold Declared.RecordModels.catalog Catalog.ofClasses
    rw [walk_orderRecords]
    decide +kernel
  exact ⟨hnames, hwritten.1, hwritten.2, hfound (hrecords orderRecords [] hnames rfl)⟩

end StructGen
