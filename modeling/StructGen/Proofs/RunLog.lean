import StructGen.Proofs.LogLines
import StructGen.Proofs.Outcomes
/-!
# What the log of a run tells

`log_tells_result`: the records of a run tell its diagnostics, each by its line and at the level of
its kind, in the order of the result, after the start of the run and before the connection file.
A higher level leaves the conversions and the frame out, the lowest adds only the models that are
requested again.
-/
namespace StructGen

open Log

abbrev Told := LogLevel × String

namespace Log

structure LogRecord.Tells (r : LogRecord) (t : Told) : Prop where
  level : r.levelValue = .ok (.text t.1.name)
  text : r.text = .ok t.2

/-- The call is accepted below the root logger, and its message stands as it is. -/
structure LogEntry.IsStraight (e : LogEntry) : Prop where
  accepted : e.call.IsAccepted
  written : isWritten e.call.logger = true
  text : e.call.text = .ok e.call.message

def LogEntry.told (e : LogEntry) : Told :=
  (e.call.level, e.call.message)

namespace Session

variable {s : Session} {setup : LogSetup} {entries : List LogEntry}

/-- The records that entries make in a session under a setup. -/
def records (s : Session) (setup : LogSetup) (entries : List LogEntry) : List LogRecord :=
  (entries.filter fun e => setup.Records e.call).map fun e =>
    (s.push e.context).stamped setup e.call

theorem records_cons (s : Session) (setup : LogSetup) (e : LogEntry) (rest : List LogEntry) :
    s.records setup (e :: rest) = s.records setup [e] ++ s.records setup rest := by
  by_cases h : setup.Records e.call <;> simp [records, h]

theorem write_eq (hs : s.setup = some setup) {e : LogEntry} (he : e.call.IsAccepted) :
    s.write e = String.join ((s.records setup [e]).map setup.written) := by
  have hpush : (s.push e.context).setup = some setup := hs
  by_cases hr : setup.Records e.call
  · have hlog := (log_eq_ok hpush hr).2 ⟨he, rfl⟩
    rw [write, hlog, output_eq]
    simp [records, hr]
  · have hsilent : s.write e = "" := by
      unfold write
      split
      · next text hlog =>
        refine log_silent (fun setup' hs' => ?_) hlog
        obtain rfl := Option.some.inj (hpush.symm.trans hs')
        exact hr
      · rfl
    simp [hsilent, records, hr]

theorem writeAll_eq (hs : s.setup = some setup) (h : ∀ e ∈ entries, e.call.IsAccepted) :
    s.writeAll entries = String.join ((s.records setup entries).map setup.written) := by
  induction entries with
  | nil => rfl
  | cons e rest ih =>
    obtain ⟨he, hrest⟩ := List.forall_mem_cons.1 h
    have hcons : s.writeAll (e :: rest) = s.write e ++ s.writeAll rest := String.join_cons
    rw [hcons, write_eq hs he, ih hrest, records_cons s setup e rest, List.map_append,
      String.join_append]

theorem stamped_tells (s : Session) (setup : LogSetup) {e : LogEntry} (he : e.IsStraight) :
    ((s.push e.context).stamped setup e.call).Tells e.told := by
  have hseverity : ((s.push e.context).stamped setup e.call).severity = e.call.level.severity := by
    unfold stamped
    split <;> rfl
  exact ⟨(isPlain_stamped he.accepted).levelValue_eq hseverity,
    (text_stamped he.accepted).trans he.text⟩

theorem records_tell (h : ∀ e ∈ entries, e.IsStraight) :
    List.Forall₂ LogRecord.Tells (s.records setup entries)
      ((entries.filter fun e => setup.level.severity ≤ e.call.level.severity).map LogEntry.told) := by
  have hfilter : (entries.filter fun e => setup.Records e.call) =
      entries.filter fun e => setup.level.severity ≤ e.call.level.severity :=
    List.filter_congr fun e he => by simp [LogSetup.Records, (h e he).written]
  rw [records, hfilter, List.forall₂_map_left_iff, List.forall₂_map_right_iff, List.forall₂_same]
  exact fun e he => stamped_tells s setup (h e (List.mem_filter.1 he).1)

/-- The line of a record shows the level and the message that it tells. -/
theorem line_of_record (h : ∀ e ∈ entries, e.IsStraight) {r : LogRecord}
    (hr : r ∈ s.records setup entries) : ∃ t : Told, r.Tells t ∧ setup.line r = (do
      let time ← setup.timeText s.clock
      setup.layOut time t.1 r.logger t.2 r.fields.get? r.extra) := by
  obtain ⟨e, he, rfl⟩ := List.mem_map.1 hr
  have hstraight := h e (List.mem_filter.1 he).1
  have hclock : (s.push e.context).clock = s.clock := rfl
  have hlogger : ((s.push e.context).stamped setup e.call).logger = e.call.logger := by
    unfold stamped
    split <;> rfl
  refine ⟨e.told, stamped_tells s setup hstraight, ?_⟩
  rw [line_stamped hstraight.accepted hstraight.text, hclock, hlogger]
  rfl

end Session

end Log

/-! ## Entries of a run -/

def runFields : List String :=
  ["model", "code"]

theorem runEntry_isStraight (level : LogLevel) (message : String) {fields : Keyed Value}
    (h : ∀ key ∈ fields.keys, key ∈ runFields) : (runEntry level message fields).IsStraight := by
  have hfree : ∀ key ∈ runFields,
      (key ∉ parameterNames ∧ key ∉ recordAttributes) ∧ key ≠ messageName := by decide
  have hmessage : fields.get? messageName = none :=
    Keyed.get?_eq_none.2 fun hmem => (hfree _ (h _ hmem)).2 rfl
  have hwritten : isWritten runLogger = true := by decide +kernel
  refine ⟨fun key hkey => (hfree key (h key hkey)).1, hwritten, ?_⟩
  simp [LogCall.text, runEntry, hmessage, formatMessage, Arguments.ofList, Except.mapError]

def DiagnosticKind.level : DiagnosticKind → LogLevel
  | failed => .error
  | missingTarget | duplicate => .warning
  | converted => .info

/-- What is told of a diagnostic: its line, at the level of its kind. -/
def Diagnostic.told (d : Diagnostic) : Told :=
  (d.kind.level, d.line)

def startTold (ids : List String) : Told :=
  (.info, "Converting models: " ++ String.intercalate ", " ids)

def repeatTold (model : String) : Told :=
  (.debug, "Model " ++ model ++ " requested more than once")

/-- What is told of the connection file, if it is among the files. -/
def connectionTold (settings : RunSettings) (files : List GeneratedFile) : List Told :=
  (files.filter (·.model.isNone)).map fun _ =>
    (.info, "Generated connection file for driver " ++
      (settings.connection.map (·.driverName)).getD "")

theorem Diagnostic.trace_isStraight (d : Diagnostic) : d.trace.IsStraight := by
  refine runEntry_isStraight _ _ fun key hkey => ?_
  unfold runFields
  cases hfailure : d.isFailure <;> simp_all [Keyed.keys]

theorem Diagnostic.told_trace (d : Diagnostic) : d.trace.told = d.told := by
  obtain ⟨model, kind, message, code, subject⟩ := d
  cases kind <;> rfl

variable {settings : RunSettings} {introspect : Introspect} {ids : List String}

/-! ## Models that are requested again -/

theorem repeated_append_singleton (introspect : Introspect) (ids : List String) (id : String) :
    (gather introspect (ids ++ [id])).repeated = (gather introspect ids).repeated ∧
        (gather introspect ids).knows (introspect id) = false ∨
      ∃ m, introspect id = .ok m ∧ m.name ∈ (arenaOf introspect ids).keys ∧
        (gather introspect ids).knows (introspect id) = true ∧
        (gather introspect (ids ++ [id])).repeated =
          (gather introspect ids).repeated ++ [(id, m.name)] := by
  rw [gather_append_singleton]
  cases hi : introspect id with
  | error fault => exact .inl ⟨rfl, rfl⟩
  | ok m =>
    by_cases hknown : (gather introspect ids).arena.keys.contains m.name = true
    · refine .inr ⟨m, rfl, List.contains_iff_mem.1 hknown, hknown, ?_⟩
      simp only [Gathered.step, if_pos hknown]
    · refine .inl ⟨?_, by simpa [Gathered.knows] using hknown⟩
      simp only [Gathered.step, if_neg hknown]
      split <;> rfl

theorem length_repeated (introspect : Introspect) (ids : List String) :
    (gather introspect ids).repeated.length = skipped introspect ids := by
  induction ids using List.reverseRecOn with
  | nil => rfl
  | append_singleton ids id ih =>
    rw [skipped_append_singleton]
    rcases repeated_append_singleton introspect ids id with ⟨heq, hknows⟩ | ⟨m, -, -, hknows, heq⟩
    · simp [heq, hknows, ih]
    · simp [heq, hknows, ih]

/-- What is told to be requested again is requested more than once. -/
theorem count_of_repeated {e : String × String} (h : e ∈ (gather introspect ids).repeated) :
    2 ≤ (schemas introspect ids).countP (·.name = e.2) := by
  induction ids using List.reverseRecOn with
  | nil => cases h
  | append_singleton ids id ih =>
    have hmore : (schemas introspect ids).countP (·.name = e.2) ≤
        (schemas introspect (ids ++ [id])).countP (·.name = e.2) := by
      simp [schemas, List.filterMap_append, List.countP_append]
    rcases repeated_append_singleton introspect ids id with ⟨heq, -⟩ | ⟨m, hm, hknown, -, heq⟩
    · rw [heq] at h
      exact Nat.le_trans (ih h) hmore
    · rw [heq, List.mem_append, List.mem_singleton] at h
      rcases h with h | rfl
      · exact Nat.le_trans (ih h) hmore
      · -- The model that is known was requested before, and this is one more request.
        obtain ⟨t, ht⟩ := Keyed.mem_keys.1 hknown
        obtain ⟨hname, hholder⟩ := mem_arenaOf.1 ht
        have hmem : t ∈ schemas introspect ids := List.mem_of_find?_eq_some hholder
        have hone : 0 < (schemas introspect ids).countP (·.name = m.name) :=
          List.countP_pos_iff.2 ⟨t, hmem, by simpa using hname⟩
        rw [schemas_append_ok hm, List.countP_append]
        simp only [List.countP_singleton, decide_true, if_true]
        omega

/-! ## The log of a run -/

/-- The records that a run makes in a session under a setup. -/
def RunResult.records (r : RunResult) (s : Session) (setup : LogSetup) (runId : String) :
    List LogRecord :=
  ((s.configure setup).push [("run_id", .text runId)]).records setup r.log

theorem connectionPart_told (settings : RunSettings) :
    (connectionPart settings).log.map LogEntry.told =
      (connectionPart settings).diagnostics.map Diagnostic.told ++
        connectionTold settings (connectionPart settings).files := by
  unfold connectionPart
  cases hc : settings.connection with
  | none => rfl
  | some c =>
    dsimp only
    cases c.render settings.package with
    | error fault => rfl
    | ok content => simp [connectionTold, hc, connectionEntry, runEntry, LogEntry.told]

theorem connectionTold_generate (settings : RunSettings) (introspect : Introspect)
    (ids : List String) : connectionTold settings (generate settings introspect ids).files =
      connectionTold settings (connectionPart settings).files := by
  rw [generate_files, connectionTold, connectionTold, List.filter_append]
  -- The files of conversions all have a model.
  rw [List.filter_eq_nil_iff.2, List.nil_append]
  intro f hf
  obtain ⟨k, -, hk⟩ := List.mem_filterMap.1 hf
  obtain ⟨c, -, rfl⟩ := Option.map_eq_some_iff.1 hk
  simp [Conversion.file]

theorem log_isStraight {e : LogEntry} (he : e ∈ (generate settings introspect ids).log) :
    e.IsStraight := by
  have hmodel : ∀ level message, (runEntry level message).IsStraight :=
    fun level message => runEntry_isStraight level message (by simp [Keyed.keys])
  simp only [generate, List.mem_append, List.mem_cons, List.mem_map] at he
  rcases he with ((rfl | ⟨r, -, rfl⟩) | ⟨d, -, rfl⟩) | he
  · exact hmodel _ _
  · obtain ⟨haccepted, hwritten, htext⟩ :=
      hmodel .debug ("Model " ++ r.2 ++ " requested more than once")
    exact ⟨haccepted, hwritten, htext⟩
  · exact d.trace_isStraight
  · unfold connectionPart at he
    split at he
    · cases he
    · split at he <;> rw [List.mem_singleton.1 he]
      · exact hmodel _ _
      · exact runEntry_isStraight _ _ (by simp [Keyed.keys, runFields])

/-- The log of a run tells its start, the repetitions, the result and the connection file. -/
theorem log_told (settings : RunSettings) (introspect : Introspect) (ids : List String) :
    (generate settings introspect ids).log.map LogEntry.told =
      startTold ids :: ((gather introspect ids).repeated.map fun r => repeatTold r.2) ++
        ((generate settings introspect ids).diagnostics.map Diagnostic.told ++
          connectionTold settings (generate settings introspect ids).files) := by
  have hlog : (generate settings introspect ids).log =
      startEntry ids :: ((gather introspect ids).repeated.map fun r => repeatEntry r.1 r.2) ++
        ((failureReports introspect ids).flatMap
          (finalReport (secondPass introspect ids).conversions)).map Diagnostic.trace ++
        (connectionPart settings).log := rfl
  have hstart : (startEntry ids).told = startTold ids := rfl
  have hrepeat : ∀ r : String × String, (repeatEntry r.1 r.2).told = repeatTold r.2 := fun _ => rfl
  rw [hlog, generate_diagnostics, connectionTold_generate]
  simp only [List.map_append, List.map_cons, List.map_map, connectionPart_told, hstart,
    Function.comp_def, hrepeat, Diagnostic.told_trace, List.append_assoc, List.cons_append]

def atLeast (level : LogLevel) (told : List Told) : List Told :=
  told.filter fun t => level.severity ≤ t.1.severity

theorem atLeast_append (level : LogLevel) (told later : List Told) :
    atLeast level (told ++ later) = atLeast level told ++ atLeast level later :=
  List.filter_append _ _

theorem atLeast_eq_self {level : LogLevel} {told : List Told}
    (h : ∀ t ∈ told, level.severity ≤ t.1.severity) : atLeast level told = told :=
  List.filter_eq_self.2 fun t ht => by simpa using h t ht

theorem atLeast_eq_nil {level : LogLevel} {told : List Told}
    (h : ∀ t ∈ told, t.1.severity < level.severity) : atLeast level told = [] :=
  List.filter_eq_nil_iff.2 fun t ht => by simpa using h t ht

theorem records_tell (settings : RunSettings) (introspect : Introspect) (ids : List String)
    (s : Session) (setup : LogSetup) (runId : String) :
    List.Forall₂ LogRecord.Tells ((generate settings introspect ids).records s setup runId)
      (atLeast setup.level ((generate settings introspect ids).log.map LogEntry.told)) := by
  rw [atLeast, List.filter_map]
  exact Session.records_tell fun e he => log_isStraight he

theorem atLeast_debug (told : List Told) : atLeast .debug told = told :=
  atLeast_eq_self fun t _ => by cases t.1 <;> decide

theorem told_info (settings : RunSettings) (introspect : Introspect) (ids : List String) :
    atLeast .info ((generate settings introspect ids).log.map LogEntry.told) =
      startTold ids :: ((generate settings introspect ids).diagnostics.map Diagnostic.told ++
        connectionTold settings (generate settings introspect ids).files) := by
  have hkind : ∀ kind : DiagnosticKind, LogLevel.info.severity ≤ kind.level.severity := by
    intro kind
    cases kind <;> decide
  have hdebug : LogLevel.debug.severity < LogLevel.info.severity := by decide
  have hrepeats : atLeast .info ((gather introspect ids).repeated.map fun r => repeatTold r.2) = [] :=
    atLeast_eq_nil (List.forall_mem_map.2 fun _ _ => hdebug)
  have hdiagnostics : ∀ ds : List Diagnostic,
      atLeast .info (ds.map Diagnostic.told) = ds.map Diagnostic.told :=
    fun ds => atLeast_eq_self (List.forall_mem_map.2 fun d _ => hkind d.kind)
  have hconnection : ∀ files : List GeneratedFile,
      atLeast .info (connectionTold settings files) = connectionTold settings files :=
    fun files => atLeast_eq_self (List.forall_mem_map.2 fun _ _ => Int.le_refl _)
  rw [log_told, List.cons_append, ← List.singleton_append, atLeast_append, atLeast_append,
    atLeast_append, hrepeats, hdiagnostics, hconnection]
  rfl

theorem told_warning (settings : RunSettings) (introspect : Introspect) (ids : List String) :
    atLeast .warning ((generate settings introspect ids).log.map LogEntry.told) =
      ((generate settings introspect ids).diagnostics.filter fun d =>
        d.isFailure || d.isWarning).map Diagnostic.told := by
  have hdebug : LogLevel.debug.severity < LogLevel.warning.severity := by decide
  have hinfo : LogLevel.info.severity < LogLevel.warning.severity := by decide
  have hstart : atLeast .warning [startTold ids] = [] := rfl
  have hrepeats :
      atLeast .warning ((gather introspect ids).repeated.map fun r => repeatTold r.2) = [] :=
    atLeast_eq_nil (List.forall_mem_map.2 fun _ _ => hdebug)
  have hdiagnostics : ∀ ds : List Diagnostic, atLeast .warning (ds.map Diagnostic.told) =
      (ds.filter fun d => d.isFailure || d.isWarning).map Diagnostic.told := by
    intro ds
    rw [atLeast, List.filter_map]
    refine congrArg _ (List.filter_congr fun d _ => ?_)
    obtain ⟨model, kind, message, code, subject⟩ := d
    cases kind <;> rfl
  have hconnection : ∀ files : List GeneratedFile,
      atLeast .warning (connectionTold settings files) = [] :=
    fun files => atLeast_eq_nil (List.forall_mem_map.2 fun _ _ => hinfo)
  rw [log_told, List.cons_append, ← List.singleton_append, atLeast_append, atLeast_append,
    atLeast_append, hstart, hrepeats, hdiagnostics, hconnection, List.nil_append, List.nil_append,
    List.append_nil]

/-- Whatever the session, the records of a run with level INFO tell the start, the diagnostics of the
result one by one, and the connection file if there is one. With level WARNING they tell the failures
and warnings, and with level DEBUG also which models are requested again. They are the output of the
run, and their lines show what they tell if the time can be told and what the session stamps them with
can be written. -/
theorem log_tells_result (settings : RunSettings) (introspect : Introspect) (ids : List String)
    (s : Session) (setup : LogSetup) (runId : String) :
    let result := generate settings introspect ids
    let records (level : LogLevel) := result.records s { setup with level } runId
    let outcome := result.diagnostics.map Diagnostic.told ++ connectionTold settings result.files
    List.Forall₂ LogRecord.Tells (records .info) (startTold ids :: outcome) ∧
      List.Forall₂ LogRecord.Tells (records .warning)
        ((result.diagnostics.filter fun d => d.isFailure || d.isWarning).map Diagnostic.told) ∧
      (∃ again : List String, again.length = skipped introspect ids ∧
        (∀ model ∈ again, 2 ≤ (schemas introspect ids).countP (·.name = model)) ∧
        List.Forall₂ LogRecord.Tells (records .debug)
          (startTold ids :: again.map repeatTold ++ outcome)) ∧
      ∀ level : LogLevel,
        result.logText (s.configure { setup with level }) runId =
          String.join ((records level).map { setup with level }.written) ∧
        (∀ r ∈ records level, ∃ t : Told, r.Tells t ∧ { setup with level }.line r = do
          let time ← setup.timeText s.clock
          setup.layOut time t.1 r.logger t.2 r.fields.get? r.extra) ∧
        ((∃ time, setup.timeText s.clock = .ok time) ↔ ∃ d, s.clock.day = .ok d) ∧
        ∀ r ∈ records level, (∃ line, { setup with level }.line r = .ok line) ↔
          (∃ d, s.clock.day = .ok d) ∧
            ∀ e ∈ setup.laidOut r.fields.get? r.extra, e.2.isShort = true := by
  intro result records outcome
  refine ⟨?_, ?_, ⟨(gather introspect ids).repeated.map Prod.snd, ?_, ?_, ?_⟩,
    fun level => ?_⟩
  · have htell := records_tell settings introspect ids s { setup with level := .info } runId
    rwa [told_info] at htell
  · have htell := records_tell settings introspect ids s { setup with level := .warning } runId
    rwa [told_warning] at htell
  · rw [List.length_map, length_repeated]
  · rw [List.forall_mem_map]
    exact fun e he => count_of_repeated he
  · have htell := records_tell settings introspect ids s { setup with level := .debug } runId
    rw [atLeast_debug, log_told] at htell
    rwa [List.map_map]
  · -- The clock is that of the session, whatever its setup and its blocks.
    have hline : ∀ r ∈ records level, ∃ t : Told, r.Tells t ∧ { setup with level }.line r = (do
        let time ← setup.timeText s.clock
        setup.layOut time t.1 r.logger t.2 r.fields.get? r.extra) := fun r hr =>
      Session.line_of_record (s := (s.configure { setup with level }).push [("run_id", .text runId)])
        (fun e he => log_isStraight he) hr
    refine ⟨Session.writeAll_eq rfl fun e he => (log_isStraight he).accepted, hline,
      LogSetup.timeText_isOk setup, fun r hr => ?_⟩
    obtain ⟨t, -, hr⟩ := hline r hr
    rw [hr]
    exact LogSetup.exists_line

end StructGen
