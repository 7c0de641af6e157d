import StructGen.Proofs.ForeignKeys
import StructGen.Proofs.Synthesis
/-!
# Types of foreign keys

A foreign key can refer to a field that is a foreign key itself, as where models share a key. Its
column takes the type of the field that it refers to, one step on, and not that of the field where the
references end (`reference_type_iff`).
-/
namespace StructGen.Declared.RecordModels

variable {models : RecordModels} {f e e' : RecordField} {n n' : Nat}

/-! ## Where references lead -/

/-- The references from a field lead in so many steps to a field that is no foreign key. -/
inductive LeadsTo (models : RecordModels) : Nat → RecordField → RecordField → Prop
  | plain {f : RecordField} {className : String} {isLibrary : Bool}
      (type : f.type = .plain className isLibrary) : LeadsTo models 0 f f
  | reference {n : Nat} {f g e : RecordField} {target : Nat} {field : Option String}
      {backref : String} (type : f.type = .reference target field backref)
      (referred : models.referred? target field = some g) (rest : LeadsTo models n g e) :
      LeadsTo models (n + 1) f e

/-- References lead to one field, in one number of steps. -/
theorem LeadsTo.unique (h : LeadsTo models n f e) (h' : LeadsTo models n' f e') :
    n' = n ∧ e' = e := by
  induction h generalizing n' with
  | plain type =>
    cases h' with
    | plain => exact ⟨rfl, rfl⟩
    | reference type' => cases type.symm.trans type'
  | reference type referred _ ih =>
    cases h' with
    | plain type' => cases type.symm.trans type'
    | reference type' referred' rest' =>
      cases type.symm.trans type'
      cases referred.symm.trans referred'
      obtain ⟨rfl, rfl⟩ := ih rest'
      exact ⟨rfl, rfl⟩

/-! ## Types of columns -/

/-- The source type of a field that is a foreign key, if it is not followed. -/
def referenceSource : String :=
  "foreignkey"

theorem source_of_reference {target : Nat} {field : Option String} {backref : String}
    (h : f.type = .reference target field backref) : f.type.source = referenceSource := by
  have hstem : classStem "ForeignKeyField" = referenceSource := by decide
  rw [h]
  exact hstem

/-- A field has the source type of the field where its references end if that is at most one step
away, and else that of a foreign key. -/
theorem source_of_leadsTo (h : LeadsTo models n f e) :
    models.source f = if n ≤ 1 then e.type.source else referenceSource := by
  cases h with
  | plain type => rw [source, type, if_pos (Nat.zero_le 1)]
  | @reference _ _ g _ _ _ _ type referred rest =>
    have hsource : models.source f = g.type.source := by
      rw [source, type]
      simp only [referred]
    rw [hsource]
    cases rest with
    | plain => rw [if_pos (Nat.le_refl 1)]
    | reference type' => rw [source_of_reference type', if_neg (by omega)]

/-- A column of the type of a foreign key has no field. -/
theorem not_synthesized {m : Model} {c : Column} (hc : c ∈ m.columns)
    (hsource : c.sourceType = referenceSource) (links : List Link) (s : GoStruct) :
    m.synthesize links ≠ .ok s := by
  intro hs
  obtain ⟨t, -, ht, -⟩ := Model.exists_type hs hc
  have hnone : ColumnType.ofName? referenceSource = none := by decide
  rw [hsource, hnone] at ht
  cases ht

/-- The column of a field has the source type of the field where its references end if and only if
that is at most one step away. A column whose references lead further has a source type that no
struct has a field for. -/
theorem reference_type_iff {c : Column} (h : LeadsTo models n f e) (hc : models.column f = .ok c) :
    (∀ n' e', LeadsTo models n' f e' → n' = n ∧ e' = e) ∧
      (c.sourceType = e.type.source ↔ n ≤ 1 ∨ e.type.source = referenceSource) ∧
      (2 ≤ n → c.sourceType = referenceSource ∧
        ∀ m : Model, c ∈ m.columns → ∀ links s, m.synthesize links ≠ .ok s) := by
  have hsource : c.sourceType = if n ≤ 1 then e.type.source else referenceSource :=
    (column_eq_ok hc).2.trans (source_of_leadsTo h)
  refine ⟨fun n' e' => h.unique, ?_, fun hn => ?_⟩
  · by_cases hn : n ≤ 1
    · simp [hsource, hn]
    · simp [hsource, hn, eq_comm]
  · rw [if_neg (by omega)] at hsource
    exact ⟨hsource, fun m hm links s => not_synthesized hm hsource links s⟩

/-- Users, profiles that share the key of their user, and avatars of profiles. -/
def sharedKeys : RecordModels :=
  .ofDecls [
    { name := "User", table := "users", qualifiedName := "User" },
    { name := "Profile", table := "profiles", qualifiedName := "Profile"
      fields := [{ name := "user", type := .reference (some "User") none "", primaryKey := true }] },
    { name := "Avatar", table := "avatars", qualifiedName := "Avatar"
      fields := [{ name := "profile", type := .reference (some "Profile") none "" }] }] []

/-- The key of profiles. -/
def profileUser : RecordField where
  name := "user"
  type := .reference 1 none "profile_set"
  columnName := "user_id"
  primaryKey := true

/-- The foreign key of avatars. -/
def avatarProfile : RecordField where
  name := "profile"
  type := .reference 2 none "avatar_set"
  columnName := "profile_id"

theorem profileUser_leadsTo : LeadsTo sharedKeys 1 profileUser numberedKey :=
  .reference rfl rfl (.plain rfl)

/-- The foreign key of profiles has the type of the key of users. -/
theorem profileUser_type : ∃ c, LeadsTo sharedKeys 1 profileUser numberedKey ∧
    sharedKeys.column profileUser = .ok c ∧ c.sourceType = "integer" := by
  obtain ⟨c, hc⟩ : ∃ c, sharedKeys.column profileUser = .ok c := ⟨_, rfl⟩
  obtain ⟨-, htype, -⟩ := reference_type_iff profileUser_leadsTo hc
  exact ⟨c, profileUser_leadsTo, hc, htype.2 (.inl (Nat.le_refl 1))⟩

/-- The foreign key of avatars leads to the key of users, and has another type. -/
theorem avatarProfile_type :
    sharedKeys.map (fun m => m.fields.map (·.name)) =
        [["id"], ["id"], ["user"], ["id", "profile"]] ∧
      (sharedKeys[3]?.bind fun m => m.fields[1]?) = some avatarProfile ∧
      LeadsTo sharedKeys 2 avatarProfile numberedKey ∧
      numberedKey.type.source = "integer" ∧
      ∃ c, sharedKeys.column avatarProfile = .ok c ∧ c.sourceType = "foreignkey" :=
  ⟨by decide, rfl, .reference rfl rfl profileUser_leadsTo, by decide, _, rfl, by decide⟩

end StructGen.Declared.RecordModels
