import StructGen.Diagnostic
import StructGen.Proofs.Identifiers
import StructGen.Proofs.Representable
import StructGen.Run.Conversion
/-!
# Clashes of fields and of structs

A clash of names is reported alike whether two fields of a struct have one name or two structs do.
The sources tell them apart: those of fields are methods, columns and associations.
`check_ne_structClash`: no failure of the second pass reads like a clash of structs.
-/
namespace StructGen

/-! ## The sources of field names -/

/-- What is reported as the source of a field name. -/
def IsFieldSource (source : String) : Prop :=
  ∃ name, source = "method '" ++ name ++ "'" ∨ source = "column '" ++ name ++ "'" ∨
    source = "association '" ++ name ++ "'"

/-- The fault says that two fields of the model have one name. -/
def FieldClash (model : String) (fault : Fault) : Prop :=
  ∃ field earlier source, fault = .nameCollision model (goName field) [earlier, source] ∧
    IsFieldSource earlier

theorem isFieldSource_column (c : Column) : IsFieldSource c.nameSource.2 :=
  ⟨c.name, .inr (.inl rfl)⟩

theorem isFieldSource_association (a : Association) : IsFieldSource a.nameSource.2 :=
  ⟨a.name, .inr (.inr rfl)⟩

/-- After sources of fields, all names are taken by fields. -/
theorem isFieldSource_of_taken {taken : TakenNames} {sources : List (String × String)}
    (ht : ∀ e ∈ taken, IsFieldSource e.2) (hs : ∀ e ∈ sources, IsFieldSource e.2) :
    ∀ e ∈ taken.after sources, IsFieldSource e.2 := by
  intro e he
  rcases List.mem_append.1 (TakenNames.mem_after.1 he) with he | he
  · exact ht e he
  · exact hs e he

theorem isFieldSource_columns (columns : List Column) :
    ∀ e ∈ methodNames.after (columns.map Column.nameSource), IsFieldSource e.2 := by
  refine isFieldSource_of_taken (fun e he => ?_) (List.forall_mem_map.2 fun c _ => ?_)
  · obtain ⟨name, -, rfl⟩ := List.mem_map.1 he
    exact ⟨name, .inl rfl⟩
  · exact isFieldSource_column c

/-! ## Failures of the second pass -/

/-- If names clash in the second pass, they are those of two fields. -/
theorem Model.check_error {m : Model} {kept : List Association} {obstacle : Obstacle}
    (h : m.check kept = .error obstacle) :
    obstacle.toFault.code ≠ "NAME_COLLISION" ∨ FieldClash m.name obstacle.toFault := by
  rcases check_eq_error.1 h with ⟨_, hkeys, rfl⟩ |
    ⟨-, hcolumns | ⟨⟨fields, taken⟩, hfields, _, htake, rfl⟩⟩
  · rcases keyFault?_eq_some.1 hkeys with ⟨-, rfl⟩ | ⟨-, rfl⟩ <;> exact .inl (by simp [Fault.code,
      Obstacle.toFault])
  · obtain ⟨before, c, -, -, hstops⟩ := (columnFields_eq_error distinct_methodNames).1 hcolumns
    rcases hstops.stops with ⟨-, rfl⟩ | ⟨-, -, rfl⟩ | ⟨-, -, earlier, he, rfl⟩
    · exact .inl (by simp [Fault.code, Obstacle.toFault])
    · exact .inl (by simp [Fault.code, Obstacle.toFault])
    · exact .inr ⟨c.name, earlier, _, rfl, isFieldSource_columns before _ he⟩
  · obtain ⟨-, -, hd, rfl, -⟩ := columnFields_eq_ok distinct_methodNames hfields
    obtain ⟨before, a, -, -, hstops⟩ := (takeNames_eq_error hd).1 htake
    obtain ⟨earlier, he, rfl⟩ := hstops.stops
    have hsources : ∀ e ∈ before.map Association.nameSource, IsFieldSource e.2 :=
      List.forall_mem_map.2 fun a _ => isFieldSource_association a
    have htaken := isFieldSource_of_taken (isFieldSource_columns m.columns) hsources _ he
    exact .inr ⟨a.name, earlier, _, rfl, htaken⟩

/-! ## Messages -/

/-- What follows the quote at the end of an identifier is determined. -/
theorem goName_quote_inj {s s' rest rest' : String}
    (h : goName s ++ ("'" ++ rest) = goName s' ++ ("'" ++ rest')) : rest = rest' := by
  have hname : ∀ s rest, (goName s ++ ("'" ++ rest)).toList.dropWhile Naming.isWordChar =
      '\'' :: rest.toList := by
    intro s rest
    rw [String.toList_append, List.dropWhile_append_of_pos (goName_chars s), String.toList_append]
    rfl
  have hrest := hname s rest
  rw [h, hname] at hrest
  exact String.toList_inj.1 (List.cons.inj hrest).2.symm

theorem message_nameCollision (model field first second : String) :
    (Fault.nameCollision model field [first, second]).message = "Field name '" ++ (field ++
      ("'" ++ ((" on model '" ++ model ++ "' is produced by more than one source: ") ++
        (first ++ (", " ++ second))))) := by
  have hquote : "' on model '" = "'" ++ " on model '" := by simp
  unfold Fault.message
  simp only [String.intercalate_cons_cons, String.intercalate_singleton, hquote, String.append_assoc]

/-- No field source reads like a model. -/
theorem IsFieldSource.ne_model {source : String} (h : IsFieldSource source) (rest k rest' : String) :
    source ++ rest ≠ "model '" ++ k ++ "'" ++ rest' := by
  intro he
  -- Two characters tell the kinds of sources apart.
  have hstart := congrArg (fun s : String => s.toList.take 2) he
  obtain ⟨name, rfl | rfl | rfl⟩ := h <;> simp at hstart

/-- A clash of fields of a model does not read like one of structs. -/
theorem FieldClash.message_ne {model struct k second : String} {fault : Fault}
    (h : FieldClash model fault) : fault.message ≠
      (Fault.nameCollision model (goName struct) ["model '" ++ k ++ "'", second]).message := by
  obtain ⟨field, earlier, source, rfl, hsource⟩ := h
  rw [message_nameCollision, message_nameCollision]
  intro he
  have hquoted := goName_quote_inj ((String.append_right_inj _).1 he)
  exact hsource.ne_model _ _ _ ((String.append_right_inj _).1 hquoted)

/-- No failure of the second pass reads like a clash of structs. -/
theorem Model.check_ne_structClash {m : Model} {kept : List Association} {obstacle : Obstacle}
    (h : m.check kept = .error obstacle) (id struct k second : String) :
    Diagnostic.ofFault id obstacle.toFault ≠ Diagnostic.ofFault id
      (.nameCollision m.name (goName struct) ["model '" ++ k ++ "'", second]) := by
  intro he
  obtain ⟨-, -, hmessage, hcode, -⟩ := Diagnostic.mk.inj he
  rcases check_error h with hne | hclash
  · exact hne (Option.some.inj hcode)
  · exact hclash.message_ne hmessage

end StructGen
