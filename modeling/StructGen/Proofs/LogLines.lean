import StructGen.Log.Session
import StructGen.Proofs.Keyed
import StructGen.Proofs.Shown
/-!
# What a call of the log writes

A record that takes no attribute's name for a field shows its time, level and logger as they are, and
of its fields those of the context. `line_eq_ok`: it has a line if its time can be told, its message
filled and what it shows written. The context that a record is stamped with fills in what its own
fields leave open.
-/
namespace StructGen.Log

open Number

/-! ## Records -/

/-- A level's name as it stands in a line for people. -/
def LogLevel.shown (l : LogLevel) (useColours : Bool) : String :=
  let padded := l.name ++ LogRecord.levelPadding l.name
  if useColours then (LogRecord.colour? l.name).getD "" ++ padded ++ "\x1b[0m" else padded

/-- The fields of these names that have a value; null is none. -/
def valuesOf (value : String → Option Value) (names : List String) : Keyed Value :=
  names.filterMap fun key =>
    match value key with
    | some .null | none => none
    | some v => some (key, v)

theorem valuesOf_congr {value value' : String → Option Value} {names : List String}
    (h : ∀ key ∈ names, value key = value' key) : valuesOf value names = valuesOf value' names :=
  List.filterMap_congr fun key hkey => by rw [h key hkey]

def LogSetup.timeText (setup : LogSetup) (t : Instant) : Except LogFault String :=
  match setup.format with
  | .json => t.iso
  | .text => t.plain

/-- The line of a record in a setup: its time, level, logger and message, the values of the context
fields, and in JSON the other fields, too. The line for people leaves the run out. -/
def LogSetup.layOut (setup : LogSetup) (time : String) (level : LogLevel) (logger message : String)
    (value : String → Option Value) (others : Keyed Value) : Except LogFault String :=
  match setup.format with
  | .json =>
    ((Value.dict ([("timestamp", .text time), ("level", .text level.name), ("logger", .text logger),
      ("message", .text message)] ++ valuesOf value contextFields ++
        if others.isEmpty then [] else [("extra", .dict others)])).line).mapError .digits
  | .text => do
    let context ← (LogRecord.bracketed (valuesOf value contextFields.tail)).mapError .digits
    return time ++ " " ++ level.shown setup.useColours ++ " " ++ logger ++ context ++ ": " ++ message

/-- The fields that a line shows, as they are laid out. -/
def LogSetup.laidOut (setup : LogSetup) (value : String → Option Value) (others : Keyed Value) :
    Keyed Value :=
  match setup.format with
  | .json => valuesOf value contextFields ++ others
  | .text => valuesOf value contextFields.tail

theorem LogRecord.exists_assigned {e : String × Value} :
    (∃ text, assigned e = .ok text) ↔ e.2.isShort = true := by
  simp [assigned, map_eq_ok, Value.display, Value.shown_eq_ok]

/-- Entries have a text in brackets if every integer in them can be written. -/
theorem LogRecord.exists_bracketed {entries : Keyed Value} :
    (∃ text, bracketed entries = .ok text) ↔ ∀ e ∈ entries, e.2.isShort = true := by
  have hmap : (∃ texts, entries.mapM assigned = .ok texts) ↔ ∀ e ∈ entries, e.2.isShort = true := by
    induction entries with
    | nil => exact iff_of_true ⟨[], rfl⟩ (List.forall_mem_nil _)
    | cons e rest ih =>
      rw [List.forall_mem_cons, ← ih, ← exists_assigned, List.mapM_cons]
      cases assigned e <;> cases rest.mapM assigned <;> simp [bind, Except.bind, pure, Except.pure]
  cases entries with
  | nil => exact iff_of_true ⟨"", rfl⟩ (List.forall_mem_nil _)
  | cons e rest =>
    simpa only [bracketed, map_eq_ok, exists_comm, exists_and_left, exists_eq', and_true] using hmap

/-- The other fields of a line are short if their dictionary is. -/
theorem isShort_extra (others : Keyed Value) :
    (∀ e ∈ (if others.isEmpty then [] else [("extra", Value.dict others)]), e.2.isShort = true) ↔
      ∀ e ∈ others, e.2.isShort = true := by
  cases others with
  | nil => simp
  | cons e rest =>
    rw [List.isEmpty_cons, if_neg Bool.false_ne_true, List.forall_mem_singleton, Value.isShort_dict]

/-- Fields are laid out if every integer in them can be written. -/
theorem LogSetup.exists_layOut {setup : LogSetup} {time : String} {level : LogLevel}
    {logger message : String} {value : String → Option Value} {others : Keyed Value} :
    (∃ line, setup.layOut time level logger message value others = .ok line) ↔
      ∀ e ∈ setup.laidOut value others, e.2.isShort = true := by
  unfold LogSetup.layOut LogSetup.laidOut
  cases setup.format with
  | json =>
    simp only [mapError_eq_ok, Value.line, Value.shown_eq_ok, exists_eq_right, Value.isShort_dict,
      List.forall_mem_append, List.forall_mem_cons, isShort_extra]
    simp
  | text =>
    rw [← LogRecord.exists_bracketed]
    cases LogRecord.bracketed (valuesOf value contextFields.tail) <;>
      simp [Except.mapError, bind, Except.bind, pure, Except.pure]

theorem LogSetup.timeText_isOk (setup : LogSetup) {t : Instant} :
    (∃ time, setup.timeText t = .ok time) ↔ ∃ d, t.day = .ok d := by
  unfold LogSetup.timeText Instant.iso Instant.plain
  cases t.day <;> cases setup.format <;> simp [bind, Except.bind, pure, Except.pure]

/-- A line comes about if its time can be told and every integer in its fields can be written. -/
theorem LogSetup.exists_line {setup : LogSetup} {t : Instant} {level : LogLevel}
    {logger message : String} {value : String → Option Value} {others : Keyed Value} :
    (∃ line, (do
      let time ← setup.timeText t
      setup.layOut time level logger message value others) = .ok line) ↔
      (∃ d, t.day = .ok d) ∧ ∀ e ∈ setup.laidOut value others, e.2.isShort = true := by
  rw [← setup.timeText_isOk]
  cases setup.timeText t with
  | error fault => simp [bind, Except.bind]
  | ok time => exact exists_layOut.trans (iff_and_self.2 fun _ => ⟨time, rfl⟩)

namespace LogRecord

variable {r : LogRecord} {context : Keyed Value} {level : LogLevel} {setup : LogSetup}

/-- No field has the name of an attribute. -/
def IsPlain (r : LogRecord) : Prop :=
  ∀ key ∈ recordAttributes, r.fields.get? key = none

theorem get?_stamp (r : LogRecord) (context : Keyed Value) {key : String}
    (h : key ∈ messageName :: recordAttributes) :
    (r.stamp context).fields.get? key = r.fields.get? key := by
  have hkey : key = messageName ∨ key ∈ recordAttributes := List.mem_cons.1 h
  rw [stamp, Keyed.get?_putAll, Keyed.get?_ofPairs_eq_none.2, Option.none_or]
  intro hfresh
  obtain ⟨v, hv⟩ := Keyed.mem_keys.1 hfresh
  have hpass := (List.mem_filter.1 hv).2
  rcases hkey with rfl | hkey <;> simp_all

/-- Of a context, the entries are added that the record has no field or attribute for. -/
theorem fields_stamp (r : LogRecord) {context : Keyed Value} (hn : context.keys.Nodup) :
    (r.stamp context).fields = r.fields ++ context.filter fun e =>
      (r.fields.get? e.1).isNone && !recordAttributes.contains e.1 && e.1 != messageName := by
  refine Keyed.putAll_of_fresh (hn.sublist (List.filter_sublist.map Prod.fst)) fun key hkey => ?_
  obtain ⟨v, hv⟩ := Keyed.mem_keys.1 hkey
  have hpass := (List.mem_filter.1 hv).2
  simp only [Bool.and_eq_true, Option.isNone_iff_eq_none] at hpass
  exact Keyed.get?_eq_none.1 hpass.1.1

theorem IsPlain.stamp (h : r.IsPlain) (context : Keyed Value) : (r.stamp context).IsPlain :=
  fun key hkey => (get?_stamp r context (List.mem_cons_of_mem _ hkey)).trans (h key hkey)

theorem text_stamp (r : LogRecord) (context : Keyed Value) : (r.stamp context).text = r.text := by
  have hmessage := get?_stamp r context (List.mem_cons_self (a := messageName))
  have hmsg : (r.stamp context).fields.get? "msg" = r.fields.get? "msg" :=
    get?_stamp r context (by decide)
  have hargs : (r.stamp context).fields.get? "args" = r.fields.get? "args" :=
    get?_stamp r context (by decide)
  simp only [text, arguments, hmessage, hmsg, hargs]
  rfl

theorem IsPlain.instant_eq (h : r.IsPlain) : r.instant = .ok r.created := by
  simp [instant, h "created" (by decide)]

theorem IsPlain.loggerValue_eq (h : r.IsPlain) : r.loggerValue = .text r.logger := by
  simp [loggerValue, h "name" (by decide)]

theorem levelName_severity (l : LogLevel) : levelName l.severity = .ok l.name := by
  cases l <;> rfl

theorem IsPlain.levelValue_eq (h : r.IsPlain) (hlevel : r.severity = level.severity) :
    r.levelValue = .ok (.text level.name) := by
  rw [levelValue, h "levelname" (by decide), hlevel, levelName_severity]
  rfl

theorem paddedLevel_name (level : LogLevel) (useColours : Bool) :
    paddedLevel useColours (.text level.name) = .ok (level.shown useColours) := by
  cases level <;> cases useColours <;> rfl

theorem setContext_eq (names : List String) (fields : Keyed Value) :
    setContext names fields = valuesOf fields.get? names := rfl

theorem setContext_shownFields (r : LogRecord) :
    setContext contextFields r.shownFields = valuesOf r.fields.get? contextFields := by
  have hshown : ∀ key ∈ contextFields, isShown key = true := by decide +kernel
  rw [setContext_eq]
  refine valuesOf_congr fun key hkey => ?_
  rw [shownFields, Keyed.get?_filter isShown, if_pos (hshown key hkey)]

/-- A plain record with a message has a line if its time can be told and its fields laid out. -/
theorem IsPlain.line_eq (h : r.IsPlain) (hlevel : r.severity = level.severity) {message : String}
    (htext : r.text = .ok message) : setup.line r = (do
      let time ← setup.timeText r.created
      setup.layOut time level r.logger message r.fields.get? r.extra) := by
  have hlogger : (Value.text r.logger).display = .ok r.logger := rfl
  unfold LogSetup.line LogSetup.timeText LogSetup.layOut
  cases setup.format with
  | json =>
    simp only [json, head, h.levelValue_eq hlevel, h.instant_eq, h.loggerValue_eq, htext,
      setContext_shownFields, bind, Except.bind]
    cases r.created.iso with
    | error fault => rfl
    | ok time => cases hextra : r.extra.isEmpty <;> rfl
  | text =>
    simp only [plain, h.levelValue_eq hlevel, h.instant_eq, h.loggerValue_eq, paddedLevel_name,
      hlogger, htext, setContext_eq, bind, Except.bind]
    cases r.created.plain with
    | error fault => rfl
    | ok time => cases bracketed (valuesOf r.fields.get? contextFields.tail) <;> rfl

end LogRecord

/-! ## Calls -/

namespace LogCall

/-- No field has the name of a parameter or of an attribute. -/
def IsAccepted (call : LogCall) : Prop :=
  ∀ key ∈ call.fields.keys, key ∉ parameterNames ∧ key ∉ recordAttributes

instance (call : LogCall) : Decidable call.IsAccepted :=
  inferInstanceAs (Decidable (∀ _ ∈ _, _))

theorem isAccepted_iff {call : LogCall} : call.IsAccepted ↔
    call.fields.keys.find? parameterNames.contains = none ∧
      call.fields.keys.find? recordAttributes.contains = none := by
  simp [IsAccepted, List.find?_eq_none, forall_and]

def text (call : LogCall) : Except LogFault String :=
  if (call.fields.get? messageName).isSome then .error .hiddenMessage
  else (formatMessage call.message (Arguments.ofList call.args)).mapError .unfilled

end LogCall

/-- What a setup writes for a record; one without a line is lost. -/
def LogSetup.written (setup : LogSetup) (r : LogRecord) : String :=
  match setup.line r with
  | .ok line => line ++ "\n"
  | .error _ => ""

/-- The call makes a record under this setup. -/
def LogSetup.Records (setup : LogSetup) (call : LogCall) : Prop :=
  isWritten call.logger = true ∧ setup.level.severity ≤ call.level.severity

instance (setup : LogSetup) (call : LogCall) : Decidable (setup.Records call) :=
  inferInstanceAs (Decidable (_ ∧ _))

namespace Session

variable {s : Session} {setup : LogSetup} {call : LogCall} {text : String}

/-- The record of a call as a setup gets it. -/
def stamped (s : Session) (setup : LogSetup) (call : LogCall) : LogRecord :=
  if setup.includeContext then (s.record call).stamp s.context else s.record call

theorem output_eq (s : Session) (setup : LogSetup) (call : LogCall) :
    s.output setup call = setup.written (s.stamped setup call) := rfl

theorem isPlain_record (h : call.IsAccepted) : (s.record call).IsPlain :=
  fun key hkey => Keyed.get?_eq_none.2 fun hmem => (h key hmem).2 hkey

theorem isPlain_stamped (h : call.IsAccepted) : (s.stamped setup call).IsPlain := by
  unfold stamped
  split
  · exact (isPlain_record h).stamp _
  · exact isPlain_record h

theorem text_record (h : call.IsAccepted) : (s.record call).text = call.text := by
  have hmsg := isPlain_record (s := s) h "msg" (by decide)
  have hargs := isPlain_record (s := s) h "args" (by decide)
  rw [LogRecord.text, LogRecord.arguments, hmsg, hargs]
  rfl

theorem text_stamped (h : call.IsAccepted) : (s.stamped setup call).text = call.text := by
  unfold stamped
  split
  · rw [LogRecord.text_stamp, text_record h]
  · exact text_record h

theorem line_stamped (h : call.IsAccepted) {message : String} (htext : call.text = .ok message) :
    setup.line (s.stamped setup call) = (do
      let time ← setup.timeText s.clock
      setup.layOut time call.level call.logger message (s.stamped setup call).fields.get?
        (s.stamped setup call).extra) := by
  have hparts : (s.stamped setup call).created = s.clock ∧
      (s.stamped setup call).logger = call.logger ∧
      (s.stamped setup call).severity = call.level.severity := by
    unfold stamped
    split <;> exact ⟨rfl, rfl, rfl⟩
  obtain ⟨hcreated, hlogger, hseverity⟩ := hparts
  rw [(isPlain_stamped h).line_eq hseverity ((text_stamped h).trans htext), hcreated, hlogger]

theorem setupFor?_eq_some {logger : String} :
    s.setupFor? logger = some setup ↔ isWritten logger = true ∧ s.setup = some setup := by
  unfold setupFor?
  split <;> simp [*]

/-- What a call that counts writes, and where. -/
def entry (s : Session) (call : LogCall) : LogStream × String :=
  match s.setupFor? call.logger with
  | some setup => (.configured, s.output setup call)
  | none => (.lastResort, s.fallback call)

/-- A call at the level that counts raises unless it is accepted. -/
theorem log_of_le (h : (s.threshold call.logger).severity ≤ call.level.severity)
    {result : LogStream × String} :
    s.log call = .ok result ↔ call.IsAccepted ∧ s.entry call = result := by
  rw [LogCall.isAccepted_iff, log]
  cases call.fields.keys.find? parameterNames.contains with
  | some name => simp
  | none =>
    rw [if_neg (Int.not_lt.2 h)]
    cases call.fields.keys.find? recordAttributes.contains with
    | some name => simp
    | none =>
      unfold entry
      cases s.setupFor? call.logger <;> simp

/-- A call below the level that counts writes nothing. -/
theorem log_of_lt (h : call.level.severity < (s.threshold call.logger).severity)
    {result : LogStream × String} (hlog : s.log call = .ok result) : result = (.configured, "") := by
  unfold log at hlog
  split at hlog
  · cases hlog
  · rw [if_pos h] at hlog
    exact (Except.ok.inj hlog).symm

/-- A call that makes a record raises unless it is accepted. -/
theorem log_eq_ok (hs : s.setup = some setup) (hr : setup.Records call)
    {result : LogStream × String} : s.log call = .ok result ↔
      call.IsAccepted ∧ (.configured, s.output setup call) = result := by
  have hsetup : s.setupFor? call.logger = some setup := setupFor?_eq_some.2 ⟨hr.1, hs⟩
  have hlevel : (s.threshold call.logger).severity ≤ call.level.severity := by
    rw [threshold, hsetup]
    exact hr.2
  rw [log_of_le hlevel, entry, hsetup]

/-- A call that makes no record adds nothing to the configured output. -/
theorem log_silent (h : ∀ setup, s.setup = some setup → ¬setup.Records call)
    (hlog : s.log call = .ok (.configured, text)) : text = "" := by
  rcases Int.lt_or_le call.level.severity (s.threshold call.logger).severity with hlt | hle
  · exact (Prod.mk.inj (log_of_lt hlt hlog)).2
  · have hentry := ((log_of_le hle).1 hlog).2
    unfold threshold entry at *
    cases hsetup : s.setupFor? call.logger with
    | none => simp [hsetup] at hentry
    | some setup =>
      obtain ⟨hwritten, hs⟩ := setupFor?_eq_some.1 hsetup
      rw [hsetup] at hle
      exact absurd ⟨hwritten, hle⟩ (h setup hs)

end Session

end StructGen.Log
