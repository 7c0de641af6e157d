import StructGen.Proofs.Winners
/-!
# Where foreign keys are stored

A foreign key is a column at a place: in the table of the model that declares it, in that of its
target, or in a join table. Repeated associations are told by a label of the place, which is a table
name as it stands or a name behind a mark. `key_shared_iff`: labels tell places apart unless the
table of the model is called like the label of another place, or a join table without a name meets
one that is called `None`; exactly then an association is dropped for one over another foreign key.
-/
namespace StructGen

/-- Where a foreign key is stored. -/
inductive Place
  | own
  | target (model : String)
  | join (table : Option String)
deriving DecidableEq, Repr

namespace Place

/-- A place in text, for a model of a table. -/
def label (table : String) : Place → String
  | own => table
  | target model => "model:" ++ model
  | join name => "join:" ++ name.getD "None"

/-- Two places that differ, but not in text. -/
inductive Confused (table : String) : Place → Place → Prop
  | target {model : String} (h : table = "model:" ++ model) : Confused table .own (.target model)
  | join {name : Option String} (h : table = "join:" ++ name.getD "None") :
    Confused table .own (.join name)
  | unnamed : Confused table (.join none) (.join (some "None"))

variable {table : String} {p q : Place}

theorem Confused.ne (h : Confused table p q) : p ≠ q := by
  cases h <;> simp

theorem Confused.label_eq (h : Confused table p q) : p.label table = q.label table := by
  cases h with
  | target h => exact h
  | join h => exact h
  | unnamed => rfl

theorem target_label_ne_join (table model : String) (name : Option String) :
    (target model).label table ≠ (join name).label table := by
  intro h
  have hlist := congrArg String.toList h
  simp [label, String.toList_append] at hlist

theorem join_label_eq {name name' : Option String}
    (h : (join name).label table = (join name').label table) :
    name = name' ∨ Confused table (join name) (join name') ∨ Confused table (join name') (join name) := by
  rw [label, label, String.append_right_inj] at h
  -- Only a missing name is written like another one.
  cases name with
  | none =>
    cases name' with
    | none => exact .inl rfl
    | some name' =>
      obtain rfl : "None" = name' := h
      exact .inr (.inl .unnamed)
  | some name =>
    cases name' with
    | none =>
      obtain rfl : name = "None" := h
      exact .inr (.inr .unnamed)
    | some name' =>
      obtain rfl : name = name' := h
      exact .inl rfl

/-- Labels tell places apart, but for those that are confused. -/
theorem label_eq_iff :
    p.label table = q.label table ↔ p = q ∨ Confused table p q ∨ Confused table q p := by
  constructor
  · intro h
    cases p with
    | own =>
      cases q with
      | own => exact .inl rfl
      | target model => exact .inr (.inl (.target h))
      | join name => exact .inr (.inl (.join h))
    | target model =>
      cases q with
      | own => exact .inr (.inr (.target h.symm))
      | target model' =>
        rw [label, label, String.append_right_inj] at h
        exact .inl (congrArg target h)
      | join name => exact absurd h (target_label_ne_join table model name)
    | join name =>
      cases q with
      | own => exact .inr (.inr (.join h.symm))
      | target model => exact absurd h.symm (target_label_ne_join table model name)
      | join name' => exact (join_label_eq h).imp_left (congrArg join)
  · rintro (rfl | h | h)
    · rfl
    · exact h.label_eq
    · exact h.label_eq.symm

end Place

/-! ## Keys of associations -/

/-- The place of an association's foreign key. -/
def Association.place (a : Association) : Place :=
  match a.kind with
  | .belongsTo => .own
  | .hasOne | .hasMany => .target a.target
  | .manyToMany => .join a.joinTable

/-- Two associations of a model are over one foreign key: one column at one place. -/
structure SharesKey (a b : Association) : Prop where
  column : a.foreignKey = b.foreignKey
  place : a.place = b.place

/-- No two associations of a model are over one column at places that are confused. -/
def Model.TellsPlaces (m : Model) : Prop :=
  ∀ a ∈ m.associations, ∀ b ∈ m.associations, a.foreignKey = b.foreignKey →
    ¬Place.Confused m.tableName a.place b.place

variable {table : String} {as : List Association} {a b w : Association} {m : Model}

theorem Association.owner_eq (a : Association) (table : String) :
    a.owner table = a.place.label table := by
  obtain ⟨_, kind, _, _, _⟩ := a
  cases kind <;> rfl

theorem Association.key_eq_iff : a.key table = b.key table ↔ a.foreignKey = b.foreignKey ∧
    (a.place = b.place ∨ Place.Confused table a.place b.place ∨
      Place.Confused table b.place a.place) := by
  rw [key, key, Prod.mk.injEq, owner_eq, owner_eq, Place.label_eq_iff, and_comm]

theorem SharesKey.key_eq (h : SharesKey a b) : a.key table = b.key table :=
  Association.key_eq_iff.2 ⟨h.column, .inl h.place⟩

theorem Model.TellsPlaces.key_eq_iff (h : m.TellsPlaces) (ha : a ∈ m.associations)
    (hb : b ∈ m.associations) : a.key m.tableName = b.key m.tableName ↔ SharesKey a b := by
  refine ⟨fun hkey => ?_, SharesKey.key_eq⟩
  obtain ⟨hcolumn, hplace | hconfused | hconfused⟩ := Association.key_eq_iff.1 hkey
  · exact ⟨hcolumn, hplace⟩
  · exact absurd hconfused (h a ha b hb hcolumn)
  · exact absurd hconfused (h b hb a ha hcolumn.symm)

/-- If keys stand for foreign keys, no places are confused. -/
theorem Model.tellsPlaces_of_keys (h : ∀ a ∈ m.associations, ∀ b ∈ m.associations,
    a.key m.tableName = b.key m.tableName → SharesKey a b) : m.TellsPlaces :=
  fun a ha b hb hcolumn hconfused => hconfused.ne
    (h a ha b hb (Association.key_eq_iff.2 ⟨hcolumn, .inr (.inl hconfused)⟩)).place

/-! ## What is dropped -/

theorem LosesTo.mem (h : LosesTo table as a w) : a ∈ as ∧ w ∈ as := by
  obtain ⟨before, later, rfl, between, after, rfl, -, -⟩ := h
  simp

/-- Of the associations of a key all but the last one lose to it. -/
theorem eq_or_losesTo (ha : a ∈ as) (hw : LastOver table as (a.key table) w) :
    a = w ∨ LosesTo table as a w := by
  obtain ⟨before, later, rfl⟩ := List.append_of_mem ha
  cases hlater : a.winner? table later with
  | none =>
    have hlast : LastOver table (before ++ a :: later) (a.key table) a :=
      ⟨before, later, rfl, rfl, Association.winner?_eq_none.1 hlater⟩
    exact .inl (hlast.unique hw)
  | some w' =>
    have hloses : LosesTo table (before ++ a :: later) a w' :=
      ⟨before, later, rfl, winner?_eq_some_iff.1 hlater⟩
    obtain rfl := hloses.lastOver.unique hw
    exact .inr hloses

/-- If all that is dropped shares the foreign key of what is kept, keys stand for foreign keys: two
associations of one key are compared with the last one of it. -/
theorem sharesKey_of_dropped (h : ∀ a w, LosesTo table as a w → SharesKey a w) (ha : a ∈ as)
    (hb : b ∈ as) (hkey : a.key table = b.key table) : SharesKey a b := by
  obtain ⟨w, hw⟩ := exists_lastOver table ha
  have hshares : ∀ c ∈ as, c.key table = a.key table → SharesKey c w := by
    intro c hc hkey
    rcases eq_or_losesTo hc (hkey ▸ hw) with rfl | hloses
    · exact ⟨rfl, rfl⟩
    · exact h c w hloses
  have haw := hshares a ha rfl
  have hbw := hshares b hb hkey.symm
  exact ⟨haw.column.trans hbw.column.symm, haw.place.trans hbw.place.symm⟩

/-- Two keys of a model agree if and only if their columns do and their places do in text. They agree
just for one foreign key, and only duplicates of it are dropped, if and only if the model tells the
places apart. -/
theorem key_shared_iff (m : Model) :
    (∀ a b : Association, a.key m.tableName = b.key m.tableName ↔ a.foreignKey = b.foreignKey ∧
        (a.place = b.place ∨ Place.Confused m.tableName a.place b.place ∨
          Place.Confused m.tableName b.place a.place)) ∧
      ((∀ a ∈ m.associations, ∀ b ∈ m.associations,
        (a.key m.tableName = b.key m.tableName ↔ SharesKey a b)) ↔ m.TellsPlaces) ∧
      ((∀ p ∈ repeatedAssociations m.tableName m.associations, SharesKey p.1 p.2) ↔
        m.TellsPlaces) := by
  refine ⟨fun a b => Association.key_eq_iff, ⟨fun h => ?_, fun h a ha b hb => h.key_eq_iff ha hb⟩,
    fun h => ?_, fun h p hp => ?_⟩
  · exact Model.tellsPlaces_of_keys fun a ha b hb => (h a ha b hb).1
  · have hdropped : ∀ a w, LosesTo m.tableName m.associations a w → SharesKey a w :=
      fun a w hloses => h (a, w) (mem_repeatedAssociations.2 hloses)
    exact Model.tellsPlaces_of_keys fun a ha b hb => sharesKey_of_dropped hdropped ha hb
  · have hloses := mem_repeatedAssociations.1 hp
    exact (h.key_eq_iff hloses.mem.1 hloses.mem.2).1 hloses.lastOver.key_eq.symm

/-- Assemblies in a table that is called like the label of the place of their parts. An assembly
names its whole in its own table, a part its assembly in the table of parts. -/
def assemblies : Model where
  name := "Assembly"
  tableName := "model:Part"
  associations := [
    { name := "whole", kind := .belongsTo, target := "Assembly", foreignKey := "assembly_id" },
    { name := "parts", kind := .hasMany, target := "Part", foreignKey := "assembly_id" }]

/-- The whole of an assembly is dropped for its parts, though their foreign keys are in different
tables. -/
theorem whole_dropped : ∃ whole parts, assemblies.associations = [whole, parts] ∧
    whole.key "model:Part" = parts.key "model:Part" ∧
    whole.place = .own ∧ parts.place = .target "Part" ∧ ¬SharesKey whole parts ∧
    repeatedAssociations "model:Part" assemblies.associations = [(whole, parts)] ∧
    keptAssociations "model:Part" assemblies.associations = [parts] := by
  refine ⟨_, _, rfl, by decide, rfl, rfl, fun h => ?_, by decide, by decide⟩
  cases h.place

end StructGen
