import StructGen.Introspector
import StructGen.Proofs.FileLines
import StructGen.Proofs.Report
import StructGen.Proofs.Representable
/-!
# The lines of the diagnostic stream

A diagnostic shows the names and reasons it is about as they are, so a line break in one of them
breaks its line. `stream_lines`: the stream has one line for each diagnostic if and only if no text
that a diagnostic shows has a line break, and so whenever the texts that a run is given have none.
-/
namespace StructGen

variable {settings : RunSettings} {introspect : Introspect} {ids : List String}

/-! ## Texts on one line -/

theorem isOneLine_intercalate {sep : String} (hsep : IsOneLine sep) {ss : List String} :
    IsOneLine (String.intercalate sep ss) ↔ ∀ s ∈ ss, IsOneLine s := by
  induction ss with
  | nil => simp [IsOneLine]
  | cons s rest ih =>
    cases rest with
    | nil => simp
    | cons s' rest =>
      rw [String.intercalate_cons_cons, isOneLine_append, isOneLine_append, ih, List.forall_mem_cons]
      simp [hsep]

theorem not_mem_of_mem_splitOn {s line : List Char} (h : line ∈ s.splitOn '\n') :
    '\n' ∉ line := by
  induction s generalizing line with
  | nil =>
    rw [List.splitOn_nil, List.mem_singleton] at h
    exact h ▸ List.not_mem_nil
  | cons c rest ih =>
    obtain ⟨first, others, hrest⟩ := List.exists_cons_of_ne_nil (List.splitOn_ne_nil '\n' rest)
    rw [List.splitOn_cons_eq_if_modifyHead, hrest] at h
    rw [hrest] at ih
    split at h
    · rcases List.mem_cons.1 h with rfl | h
      · exact List.not_mem_nil
      · exact ih h
    · next hc =>
      rw [List.modifyHead_cons, List.mem_cons] at h
      rcases h with rfl | h
      · have hne : c ≠ '\n' := by simpa using hc
        simpa [hne.symm] using ih List.mem_cons_self
      · exact ih (List.mem_cons_of_mem _ h)

theorem isOneLine_of_mem_linesOf {l text : String} (h : l ∈ linesOf text) : IsOneLine l := by
  obtain ⟨line, hline, rfl⟩ := List.mem_map.1 h
  rw [IsOneLine, String.toList_ofList]
  exact not_mem_of_mem_splitOn hline

theorem linesOf_join (ls : List String) :
    linesOf (String.join (ls.map (· ++ "\n"))) = ls.flatMap linesOf ++ [""] := by
  induction ls with
  | nil => decide
  | cons l rest ih =>
    rw [List.map_cons, String.join_cons, linesOf_append_break, ih, List.flatMap_cons,
      List.append_assoc]

/-- Texts are the lines they have if each is one line. -/
theorem flatMap_linesOf_eq_iff {ls : List String} :
    ls.flatMap linesOf = ls ↔ ∀ l ∈ ls, IsOneLine l := by
  constructor
  · intro h l hl
    rw [← h, List.mem_flatMap] at hl
    obtain ⟨text, -, hline⟩ := hl
    exact isOneLine_of_mem_linesOf hline
  · exact flatMap_linesOf

theorem isOneLine_toString (n : Nat) : IsOneLine (toString n) := by
  intro hmem
  have hdigit := isDigit_of_mem_toString hmem
  revert hdigit
  decide

theorem isOneLine_listed (ss : List String) :
    IsOneLine (String.intercalate ", " ss) ↔ ∀ s ∈ ss, IsOneLine s :=
  isOneLine_intercalate (by decide)

/-! ## Texts in quotes -/

namespace Text

theorem hexDigit_ne_break : ∀ n < 16, hexDigit n ≠ '\n' := by
  decide

theorem not_mem_hexDigits (width n : Nat) : '\n' ∉ hexDigits width n := by
  induction width generalizing n with
  | zero => exact List.not_mem_nil
  | succ width ih =>
    rw [hexDigits, List.mem_append, List.mem_singleton, not_or]
    exact ⟨ih _, (hexDigit_ne_break _ (Nat.mod_lt _ (by decide))).symm⟩

theorem not_mem_showChar {mark : Char} (hmark : mark ≠ '\n') (c : Char) :
    '\n' ∉ showChar mark c := by
  unfold showChar
  split
  · next hc =>
    have hne : c ≠ '\n' := by
      rcases hc with rfl | rfl
      · exact hmark
      · decide
    simp [hne.symm]
  split
  · decide
  · next hbreak =>
    split
    · decide
    split
    · decide
    split
    · simpa using Ne.symm hbreak
    · unfold showCode
      split
      · simp [not_mem_hexDigits]
      split <;> simp [not_mem_hexDigits]

theorem markFor_ne_break (s : List Char) : markFor s ≠ '\n' := by
  unfold markFor
  split <;> decide

/-- A text in quotation marks is one line. -/
theorem isOneLine_literal (s : String) : IsOneLine (literal s) := by
  have hmark := markFor_ne_break s.toList
  simp [IsOneLine, literal, hmark.symm, not_mem_showChar hmark]

end Text

theorem Value.isOneLine_texts (ss : List String) : IsOneLine (Value.texts ss).literalText := by
  have hitems : literals (ss.map text) = ss.map Text.literal := by
    induction ss with
    | nil => rfl
    | cons s rest ih => rw [List.map_cons, literals, ih, literalText, List.map_cons]
  have hlist : IsOneLine (String.intercalate ", " (ss.map Text.literal)) :=
    (isOneLine_listed _).2 (List.forall_mem_map.2 fun s _ => Text.isOneLine_literal s)
  rw [texts, literalText, hitems]
  simp +decide [isOneLine_append, hlist]

/-! ## Faults -/

namespace Fault

/-- The texts that a message shows as they are. -/
def shown : Fault → List String
  | lookup model known _ => model :: known.take shownModels
  | notConcrete model reason => [model, reason]
  | unsupportedType sourceType column model => [sourceType, columnPlace column model]
  | unsupportedSchema model reason => [model, reason]
  | nameCollision model field sources => model :: field :: sources
  | unsupportedDriver driver known => driver :: known
  | environmentNotFound environment _ => [environment]
  | other message _ => [message]

theorem isOneLine_knownText (known : List String) :
    IsOneLine (knownText known) ↔ ∀ s ∈ known.take shownModels, IsOneLine s := by
  have hmore : IsOneLine (if shownModels < known.length then
      " (and " ++ toString (known.length - shownModels) ++ " more)" else "") := by
    split
    · simp +decide only [isOneLine_append, isOneLine_toString]
    · decide
  cases known with
  | nil => simp +decide
  | cons s rest =>
    simp only [knownText, isOneLine_append, hmore, isOneLine_listed]
    simp +decide

/-- A message has a line break only from a text that it shows. -/
theorem isOneLine_message (fault : Fault) :
    IsOneLine fault.message ↔ ∀ s ∈ fault.shown, IsOneLine s := by
  unfold message shown
  cases fault with
  | lookup model known ambiguous =>
    have hverdict : IsOneLine (if ambiguous then "' is ambiguous" else "' could not be found") := by
      cases ambiguous <;> decide
    simp +decide only [isOneLine_append, hverdict, isOneLine_knownText, List.forall_mem_cons]
    tauto
  | unsupportedDriver driver known =>
    have hknown : IsOneLine (if known.isEmpty then ""
        else "; supported drivers: " ++ String.intercalate ", " known) ↔
          ∀ s ∈ known, IsOneLine s := by
      cases known with
      | nil => simp +decide
      | cons s rest => simp +decide [isOneLine_append, isOneLine_listed]
    simp +decide only [isOneLine_append, hknown, List.forall_mem_cons]
    tauto
  | environmentNotFound environment available =>
    simp +decide [isOneLine_append, Value.isOneLine_texts]
  | nameCollision model field sources =>
    simp +decide only [isOneLine_append, isOneLine_listed, List.forall_mem_cons]
    tauto
  | _ => simp +decide [isOneLine_append]

end Fault

/-! ## Notices -/

/-- What a diagnostic is about. -/
inductive Notice
  /-- The model was converted. -/
  | converted (model : String)
  /-- The model was not converted. -/
  | failed (model : String) (fault : Fault)
  /-- An association was left out, as its target is not emitted. -/
  | missing (model : String) (a : Association)
  /-- An association was left out, as a later one repeats it. -/
  | repeated (model : String) (a winner : Association)

namespace Notice

/-- The diagnostic of a notice. -/
def diagnostic : Notice → Diagnostic
  | converted model => Diagnostic.ofConverted model
  | failed model fault => Diagnostic.ofFault model fault
  | missing model a => missingWarning model a
  | repeated model a winner => duplicateWarning model a winner

/-- The texts that the line of a notice shows as they are. -/
def shown : Notice → List String
  | converted model => [model]
  | failed model fault => model :: fault.shown
  | missing model a => [model, a.name, a.target]
  | repeated model a winner => [model, a.name, a.foreignKey, winner.name]

/-- The notice is one that a run has reason to give. -/
def IsOf (settings : RunSettings) (introspect : Introspect) (ids : List String) : Notice → Prop
  | converted k => k ∈ (secondPass introspect ids).conversions.keys
  | failed k fault => k ∈ ids ∧ refusal? introspect ids k = some fault ∨
      (k, fault) ∈ (secondPass introspect ids).faults ∨
      k = connectionName ∧ ∃ c, settings.connection = some c ∧
        c.render settings.package = .error fault
  | missing k a => ∃ m, (k, m) ∈ convertedModels introspect ids ∧ a ∈ m.associations
  | repeated k a winner =>
    ∃ m, (k, m) ∈ convertedModels introspect ids ∧ a ∈ m.associations ∧ winner ∈ m.associations

theorem isOneLine_missing (model : String) (a : Association) :
    IsOneLine (missingWarning model a).line ↔ ∀ s ∈ [model, a.name, a.target], IsOneLine s := by
  have habout : (missingWarning model a).about = model ++ "." ++ a.name := by
    simp [Diagnostic.about, missingWarning, String.append_eq_empty_iff]
  have hkind : IsOneLine a.kind.name := by
    cases a.kind <;> decide
  have hmessage : IsOneLine (missingWarning model a).message ↔ IsOneLine a.target := by
    simp +decide [missingWarning, isOneLine_append, hkind]
  have hline : (missingWarning model a).line = "MissingAssociationTarget [" ++
      (missingWarning model a).about ++ "]: " ++ (missingWarning model a).message := rfl
  rw [hline, habout]
  simp +decide [isOneLine_append, hmessage, and_assoc]

theorem isOneLine_duplicate (model : String) (a winner : Association) :
    IsOneLine (duplicateWarning model a winner).line ↔
      ∀ s ∈ [model, a.name, a.foreignKey, winner.name], IsOneLine s := by
  have habout : (duplicateWarning model a winner).about = model ++ "." ++ a.name := by
    simp [Diagnostic.about, duplicateWarning, String.append_eq_empty_iff]
  have hmessage : IsOneLine (duplicateWarning model a winner).message ↔
      IsOneLine a.foreignKey ∧ IsOneLine winner.name := by
    simp +decide [duplicateWarning, isOneLine_append]
  have hline : (duplicateWarning model a winner).line = "DuplicateAssociation [" ++
      (duplicateWarning model a winner).about ++ "]: " ++
        (duplicateWarning model a winner).message := rfl
  rw [hline, habout]
  simp +decide [isOneLine_append, hmessage, and_assoc]

/-- The line of a notice has a line break only from a text that it shows. -/
theorem isOneLine_line (n : Notice) :
    IsOneLine n.diagnostic.line ↔ ∀ s ∈ n.shown, IsOneLine s := by
  unfold diagnostic shown
  cases n with
  | converted model => simp +decide [Diagnostic.line, Diagnostic.ofConverted, isOneLine_append]
  | failed model fault =>
    simp +decide [Diagnostic.line, Diagnostic.ofFault, isOneLine_append, fault.isOneLine_message]
  | missing model a => exact isOneLine_missing model a
  | repeated model a winner => exact isOneLine_duplicate model a winner

end Notice

theorem mem_of_mem_repeated {table : String} {as : List Association} {a winner : Association}
    (h : (a, winner) ∈ repeatedAssociations table as) : a ∈ as ∧ winner ∈ as := by
  induction as with
  | nil => cases h
  | cons b later ih =>
    unfold repeatedAssociations at h
    split at h
    · next w hw =>
      rcases List.mem_cons.1 h with heq | h
      · cases heq
        have hlater : winner ∈ later := List.mem_reverse.1 (List.mem_of_find?_eq_some hw)
        exact ⟨List.mem_cons_self, List.mem_cons_of_mem _ hlater⟩
      · exact (ih h).imp (List.mem_cons_of_mem _) (List.mem_cons_of_mem _)
    · exact (ih h).imp (List.mem_cons_of_mem _) (List.mem_cons_of_mem _)

/-- A warning of a model is about associations of the model. -/
theorem exists_notice_of_resolve {scope : Scope} {m : Model} {d : Diagnostic}
    (hd : d ∈ (scope.resolve m).diagnostics) :
    (∃ a winner, a ∈ m.associations ∧ winner ∈ m.associations ∧
      (Notice.repeated m.name a winner).diagnostic = d) ∨
    ∃ a ∈ m.associations, (Notice.missing m.name a).diagnostic = d := by
  rcases List.mem_append.1 hd with h | h
  · obtain ⟨⟨a, winner⟩, hmem, rfl⟩ := List.mem_map.1 h
    obtain ⟨ha, hwinner⟩ := mem_of_mem_repeated hmem
    exact .inl ⟨a, winner, ha, hwinner, rfl⟩
  · obtain ⟨a, ha, rfl⟩ := List.mem_map.1 h
    exact .inr ⟨a, (keptAssociations_sublist _ _).subset (List.mem_of_mem_filter ha), rfl⟩

/-- Every diagnostic of a run is that of a notice. -/
theorem exists_notice {d : Diagnostic} (hd : d ∈ (generate settings introspect ids).diagnostics) :
    ∃ n : Notice, n.IsOf settings introspect ids ∧ n.diagnostic = d := by
  rw [mem_diagnostics, List.mem_append, List.mem_append] at hd
  rcases hd with (hd | hd) | hd
  · obtain ⟨hid, fault, hfault, heq⟩ := mem_refusals.1 hd
    exact ⟨.failed _ fault, .inl ⟨hid, hfault⟩, heq.symm⟩
  · unfold outcome at hd
    split at hd
    · next fault hfault =>
      have heq := List.mem_singleton.1 hd
      exact ⟨.failed _ fault, .inr (.inl (Keyed.mem_of_get? hfault)), heq.symm⟩
    · next c _ hc =>
      have hc' := Keyed.mem_of_get? hc
      rcases List.mem_append.1 hd with hd | hd
      · obtain ⟨m, _, hm, hname, -, -, hres⟩ := conversion_spec hc'
        rw [hres] at hd
        rw [← hname] at hm
        rcases exists_notice_of_resolve hd with ⟨a, winner, ha, hwinner, heq⟩ | ⟨a, ha, heq⟩
        · exact ⟨.repeated m.name a winner, ⟨m, hm, ha, hwinner⟩, heq⟩
        · exact ⟨.missing m.name a, ⟨m, hm, ha⟩, heq⟩
      · have heq := List.mem_singleton.1 hd
        exact ⟨.converted _, Keyed.keys_of_mem hc', heq.symm⟩
    · cases hd
  · have hd' := List.mem_of_mem_filter hd
    unfold connectionPart at hd'
    split at hd'
    · cases hd'
    · next c hc =>
      split at hd'
      · cases hd'
      · next fault hfault =>
        have heq := List.mem_singleton.1 hd'
        exact ⟨.failed connectionName fault, .inr (.inr ⟨rfl, c, hc, hfault⟩), heq.symm⟩

/-! ## Texts that are given -/

/-- The texts of a schema that diagnostics show are one line each. -/
structure Model.FitsLine (m : Model) : Prop where
  name : IsOneLine m.name
  columns : ∀ c ∈ m.columns, IsOneLine c.name ∧ IsOneLine c.sourceType
  associations : ∀ a ∈ m.associations,
    IsOneLine a.name ∧ IsOneLine a.target ∧ IsOneLine a.foreignKey

/-- The texts that a run is given are one line each. -/
structure GivenOnLines (settings : RunSettings) (introspect : Introspect) (ids : List String) :
    Prop where
  identifiers : ∀ id ∈ ids, IsOneLine id
  schemas : ∀ m ∈ schemas introspect ids, m.FitsLine
  faults : ∀ id ∈ ids, ∀ fault, introspect id = .error fault → ∀ s ∈ fault.shown, IsOneLine s
  driver : ∀ c, settings.connection = some c → IsOneLine c.driverName

theorem isOneLine_goName (s : String) : IsOneLine (goName s) :=
  isOneLine_of_isWordChar (goName_chars s)

theorem TakenNames.isOneLine_after {taken : TakenNames} {sources : List (String × String)}
    (ht : ∀ e ∈ taken, IsOneLine e.2) (hs : ∀ s ∈ sources, IsOneLine s.2) :
    ∀ e ∈ taken.after sources, IsOneLine e.2 :=
  fun e he => (List.mem_append.1 (mem_after.1 he)).elim (ht e) (hs e)

/-- A collision shows the model, the name and the two sources. -/
theorem shown_collision {model earlier source : String} (name : String) (hmodel : IsOneLine model)
    (hearlier : IsOneLine earlier) (hsource : IsOneLine source) :
    ∀ s ∈ (Fault.nameCollision model (goName name) [earlier, source]).shown, IsOneLine s := by
  simp [Fault.shown, hmodel, hearlier, hsource, isOneLine_goName]

namespace Model.FitsLine

variable {m : Model} {links : List Link} {fault : Fault}

theorem keys (hm : m.FitsLine) : ∀ s ∈ m.keys.map (·.name), IsOneLine s := by
  intro s hs
  obtain ⟨c, hc, rfl⟩ := List.mem_map.1 hs
  exact (hm.columns c (List.mem_of_mem_filter hc)).1

theorem columnSources (hm : m.FitsLine) :
    ∀ s ∈ m.columns.map Column.nameSource, IsOneLine s.2 := by
  intro s hs
  obtain ⟨c, hc, rfl⟩ := List.mem_map.1 hs
  simp +decide [Column.nameSource, isOneLine_append, (hm.columns c hc).1]

theorem associationSources (hm : m.FitsLine) :
    ∀ s ∈ m.associations.map Association.nameSource, IsOneLine s.2 := by
  intro s hs
  obtain ⟨a, ha, rfl⟩ := List.mem_map.1 hs
  simp +decide [Association.nameSource, isOneLine_append, (hm.associations a ha).1]

/-- A model is refused with texts of its schema. -/
theorem shown_of_refused {obstacle : Obstacle} (hm : m.FitsLine)
    (hlinks : ∀ l ∈ links, l.association ∈ m.associations) (h : RefusedFor m links obstacle) :
    ∀ s ∈ obstacle.toFault.shown, IsOneLine s := by
  have hmethods : ∀ e ∈ methodNames, IsOneLine e.2 := by decide
  cases h with
  | noKey _ => simp +decide [Fault.shown, Obstacle.toFault, hm.name]
  | manyKeys _ =>
    have hreason : IsOneLine
        ("composite primary key (" ++ String.intercalate ", " (m.keys.map (·.name)) ++ ")") := by
      have hkeys := (isOneLine_listed _).2 hm.keys
      simp +decide [isOneLine_append, hkeys]
    exact List.forall_mem_cons.2 ⟨hm.name, List.forall_mem_singleton.2 hreason⟩
  | @column before c after _ _ hsplit hstops =>
    rcases hstops.stops with ⟨-, rfl⟩ | ⟨-, -, rfl⟩ | ⟨-, -, earlier, hearlier, rfl⟩
    · obtain ⟨hname, htype⟩ := hm.columns c (by simp [hsplit])
      have hplace : IsOneLine (Fault.columnPlace (some (m.name ++ "." ++ c.name)) none) := by
        unfold Fault.columnPlace
        simp +decide [String.append_eq_empty_iff, isOneLine_append, hm.name, hname]
      exact List.forall_mem_cons.2 ⟨htype, List.forall_mem_singleton.2 hplace⟩
    · have hmessage : IsOneLine Number.DigitFault.tooManyDigits.message := by decide +kernel
      simpa [Obstacle.toFault, Fault.shown] using hmessage
    · have hall := hm.columnSources
      rw [hsplit, List.map_append, List.forall_mem_append, List.map_cons,
        List.forall_mem_cons] at hall
      exact shown_collision c.name hm.name
        (TakenNames.isOneLine_after hmethods hall.1 _ hearlier) hall.2.1
  | @association before a after fault _ _ _ hsplit hstops =>
    have hall : ∀ s ∈ (before ++ a :: after).map Association.nameSource, IsOneLine s.2 := by
      rw [← hsplit]
      intro s hs
      obtain ⟨b, hb, rfl⟩ := List.mem_map.1 hs
      obtain ⟨l, hl, rfl⟩ := List.mem_map.1 hb
      exact hm.associationSources _ (List.mem_map_of_mem (hlinks l hl))
    rw [List.map_append, List.forall_mem_append, List.map_cons, List.forall_mem_cons] at hall
    obtain ⟨earlier, hearlier, rfl⟩ := hstops.stops
    have htaken := TakenNames.isOneLine_after hmethods hm.columnSources
    exact shown_collision a.name hm.name
      (TakenNames.isOneLine_after htaken hall.1 _ hearlier) hall.2.1

end Model.FitsLine

theorem GivenOnLines.model {k : String} {m : Model} (h : GivenOnLines settings introspect ids)
    (hm : (k, m) ∈ arenaOf introspect ids) : m.FitsLine := by
  obtain ⟨-, hholder⟩ := mem_arenaOf.1 hm
  exact h.schemas m (List.mem_of_find?_eq_some hholder)

/-- A fault of the first pass shows what was given. -/
theorem GivenOnLines.shown_of_refusal {id : String} {fault : Fault}
    (h : GivenOnLines settings introspect ids) (hid : id ∈ ids)
    (hfault : refusal? introspect ids id = some fault) : ∀ s ∈ fault.shown, IsOneLine s := by
  unfold refusal? at hfault
  split at hfault
  · next fault' herror =>
    cases hfault
    exact h.faults id hid fault herror
  · next m hm =>
    split at hfault
    · cases hfault
    · next t ht =>
      split at hfault
      · cases hfault
      · cases hfault
        have hmodel := (h.schemas m (mem_schemas.2 ⟨id, hid, hm⟩)).name
        have hearlier := (h.schemas t (List.mem_of_find?_eq_some ht)).name
        exact shown_collision m.name hmodel (by simp +decide [isOneLine_append, hearlier])
          (by simp +decide [isOneLine_append, hmodel])

theorem refused_of_convertModel {arena : Keyed Model} {names : List String} {m : Model}
    {fault : Fault} (h : convertModel arena names m = .error fault) :
    ∃ obstacle, Model.RefusedFor m (Scope.resolve ⟨names, some arena⟩ m).links obstacle ∧
      obstacle.toFault = fault := by
  obtain ⟨obstacle, hcheck, hfault⟩ := convertModel_eq_error.1 h
  refine ⟨obstacle, ?_, hfault⟩
  rw [← Model.synthesize_eq_error, Model.synthesize_eq, Scope.resolve_associations, hcheck]
  rfl

/-- A fault of the second pass shows texts of a schema. -/
theorem GivenOnLines.shown_of_fault {k : String} {fault : Fault}
    (h : GivenOnLines settings introspect ids)
    (hfault : (k, fault) ∈ (secondPass introspect ids).faults) : ∀ s ∈ fault.shown, IsOneLine s := by
  obtain ⟨m, hm, herror⟩ := mem_faults.1 hfault
  obtain ⟨obstacle, hrefused, rfl⟩ := refused_of_convertModel herror
  refine (h.model hm).shown_of_refused (fun l hl => ?_) hrefused
  have hmem := List.mem_map_of_mem (f := (·.association)) hl
  rw [Scope.resolve_associations] at hmem
  exact (Model.mem_emitted hmem).1

theorem GivenOnLines.shown_of_connection {c : Connection} {fault : Fault}
    (h : GivenOnLines settings introspect ids) (hc : settings.connection = some c)
    (hfault : c.render settings.package = .error fault) : ∀ s ∈ fault.shown, IsOneLine s := by
  have hdrivers : ∀ s ∈ Dialect.all.map Dialect.driverName, IsOneLine s := by decide
  have hdriver := h.driver c hc
  cases hd : Dialect.ofDriver c.driverName with
  | ok d => simp [Connection.render, hd, bind, Except.bind, pure, Except.pure] at hfault
  | error fault' =>
    simp only [Connection.render, hd, bind, Except.bind, Except.error.injEq] at hfault
    subst hfault
    unfold Dialect.ofDriver at hd
    split at hd
    · cases hd
    · cases hd
      exact List.forall_mem_cons.2 ⟨hdriver, hdrivers⟩

/-- A notice shows what a run is given. -/
theorem GivenOnLines.shown {n : Notice} (h : GivenOnLines settings introspect ids)
    (hn : n.IsOf settings introspect ids) : ∀ s ∈ n.shown, IsOneLine s := by
  have hname : ∀ {k m}, (k, m) ∈ arenaOf introspect ids → IsOneLine k := by
    intro k m hm
    exact (mem_arenaOf.1 hm).1 ▸ (h.model hm).name
  cases n with
  | converted k =>
    obtain ⟨m, hm⟩ := Keyed.mem_keys.1 (converted_iff.1 hn).1
    exact List.forall_mem_singleton.2 (hname hm)
  | failed k fault =>
    rcases hn with ⟨hid, hfault⟩ | hfault | ⟨rfl, c, hc, hfault⟩
    · exact List.forall_mem_cons.2 ⟨h.identifiers k hid, h.shown_of_refusal hid hfault⟩
    · obtain ⟨m, hm, -⟩ := mem_faults.1 hfault
      exact List.forall_mem_cons.2 ⟨hname hm, h.shown_of_fault hfault⟩
    · exact List.forall_mem_cons.2 ⟨by decide, h.shown_of_connection hc hfault⟩
  | missing k a =>
    obtain ⟨m, hm, ha⟩ := hn
    have hm' := (mem_convertedModels.1 hm).1
    obtain ⟨haname, htarget, -⟩ := (h.model hm').associations a ha
    simp [Notice.shown, hname hm', haname, htarget]
  | repeated k a winner =>
    obtain ⟨m, hm, ha, hwinner⟩ := hn
    have hm' := (mem_convertedModels.1 hm).1
    obtain ⟨haname, -, hkey⟩ := (h.model hm').associations a ha
    have hwinner' := ((h.model hm').associations winner hwinner).1
    simp [Notice.shown, hname hm', haname, hkey, hwinner']

/-- The lines of the diagnostic stream are those of the diagnostics, in order; it has one line for
each if and only if no text that a diagnostic shows has a line break, and so if the texts that the
run is given have none. -/
theorem stream_lines (settings : RunSettings) (introspect : Introspect) (ids : List String) :
    let r := generate settings introspect ids
    linesOf r.stream = r.lines.flatMap linesOf ++ [""] ∧
    (linesOf r.stream = r.lines ++ [""] ↔ ∀ d ∈ r.diagnostics, IsOneLine d.line) ∧
    (∀ d ∈ r.diagnostics, ∃ n : Notice, n.IsOf settings introspect ids ∧ n.diagnostic = d ∧
      (IsOneLine d.line ↔ ∀ s ∈ n.shown, IsOneLine s)) ∧
    (GivenOnLines settings introspect ids → linesOf r.stream = r.lines ++ [""]) := by
  intro r
  have hlines : linesOf r.stream = r.lines.flatMap linesOf ++ [""] := linesOf_join r.lines
  have hiff : linesOf r.stream = r.lines ++ [""] ↔ ∀ d ∈ r.diagnostics, IsOneLine d.line := by
    rw [hlines, List.append_left_inj, flatMap_linesOf_eq_iff]
    exact List.forall_mem_map
  refine ⟨hlines, hiff, fun d hd => ?_, fun h => hiff.2 fun d hd => ?_⟩
  · obtain ⟨n, hn, rfl⟩ := exists_notice hd
    exact ⟨n, hn, rfl, n.isOneLine_line⟩
  · obtain ⟨n, hn, rfl⟩ := exists_notice hd
    exact n.isOneLine_line.2 (h.shown hn)

/-- Shipments, with their orders, which are not known. -/
def shipment : Model where
  name := "Shipment"
  tableName := "shipments"
  columns := [{ name := "id", sourceType := "integer", isPrimaryKey := true }]
  associations := [
    { name := "order", kind := .belongsTo, target := "Order", foreignKey := "order_id" }]

/-- Only the schema of shipments is known. -/
def shipmentsOnly : Introspect :=
  (Introspector.ofSchemas [("Shipment", shipment)]).lookup

/-- A run over shipments is given no line break, and its warning and its outcome are one line each. -/
theorem shipments_lines : GivenOnLines usualSettings shipmentsOnly ["Shipment"] ∧
    linesOf (generate usualSettings shipmentsOnly ["Shipment"]).stream =
      ["MissingAssociationTarget [Shipment.order]: target model 'Order' is not part of this run; " ++
          "dropping belongs_to association",
        "Converted the model [Shipment]", ""] := by
  have hschemas : schemas shipmentsOnly ["Shipment"] = [shipment] := rfl
  have hgiven : GivenOnLines usualSettings shipmentsOnly ["Shipment"] := {
    identifiers := by decide
    schemas := by
      rw [hschemas]
      exact List.forall_mem_singleton.2 ⟨by decide, by decide, by decide⟩
    faults := List.forall_mem_singleton.2 nofun
    driver := nofun }
  refine ⟨hgiven, ?_⟩
  rw [(stream_lines usualSettings shipmentsOnly ["Shipment"]).2.2.2 hgiven]
  decide +kernel

/-- An identifier with a line break: its failure is three lines. -/
theorem brokenName_lines :
    let r := generate usualSettings shipmentsOnly ["Ship\nment"]
    r.diagnostics.length = 1 ∧
      linesOf r.stream = ["Failed to convert the model [Ship", "ment]: Model 'Ship",
        "ment' could not be found; known models: Shipment", ""] ∧
      ¬∀ d ∈ r.diagnostics, IsOneLine d.line := by
  decide +kernel

end StructGen
