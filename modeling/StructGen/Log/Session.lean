import StructGen.Log.Record
/-!
# Sessions

A session is the state of the log: how records are written, which context they are stamped with, and
the time. A call that is below the configured level does nothing; a record that cannot be written is
lost. A record that no configured handler takes goes to the last resort, which writes its message
alone.
-/
namespace StructGen.Log

/-- How records are written. -/
structure LogSetup where
  level : LogLevel := .info
  format : LogFormat := .text
  includeContext : Bool := true
  useColours : Bool := true
deriving DecidableEq, Repr, Inhabited

/-- The setup of a level and a format that are given by name. -/
def LogSetup.ofTexts (level format : String) (includeContext useColours : Bool) :
    Except LogFault LogSetup := do
  let level ← LogLevel.ofText level
  let format ← LogFormat.ofText format
  return { level, format, includeContext, useColours }

/-- Where a record is written to. -/
inductive LogStream
  /-- The output of the last configuration. -/
  | configured
  /-- The stream for records that no handler takes. -/
  | lastResort
deriving DecidableEq, Repr, Inhabited

/-- A record as a setup writes it. -/
def LogSetup.line (setup : LogSetup) (r : LogRecord) : Except LogFault String :=
  match setup.format with
  | .json => r.json true
  | .text => r.plain setup.useColours

/-- A call of the log. -/
structure LogCall where
  logger : String
  level : LogLevel
  message : String
  args : List Value := []
  fields : Keyed Value := []
deriving Repr, Inhabited

/-- A call of the log, with what the context holds for it alone. -/
structure LogEntry where
  call : LogCall
  context : Keyed Value := []
deriving Repr, Inhabited

/-- The state of the log. -/
structure Session where
  setup : Option LogSetup := none
  clock : Instant := ⟨0⟩
  /-- The contexts of the open blocks, innermost first. -/
  blocks : List (Keyed Value) := []
deriving Repr, Inhabited

/-- The logger above all that are written. -/
def rootLogger : String :=
  "ormgo"

/-- The logger is the root logger or below it. -/
def isWritten (logger : String) : Bool :=
  logger = rootLogger || (rootLogger ++ ".").toList.isPrefixOf logger.toList

/-- The names that a field of a call cannot have, being those of its parameters. -/
def parameterNames : List String :=
  ["self", "msg", "level"]

namespace Session

/-- The context of the innermost block. -/
def context (s : Session) : Keyed Value :=
  s.blocks.head?.getD []

/-- Takes a new setup. -/
def configure (s : Session) (setup : LogSetup) : Session :=
  { s with setup := some setup }

/-- Opens a block that adds fields to the context. -/
def push (s : Session) (fields : Keyed Value) : Session :=
  { s with blocks := s.context.putAll fields :: s.blocks }

/-- Closes the innermost block. -/
def pop (s : Session) : Session :=
  { s with blocks := s.blocks.tail }

/-- The session after the innermost block, if one is open. -/
def pop? (s : Session) : Option Session :=
  if s.blocks.isEmpty then none else some s.pop

/-- The setup of the handler that takes the records of a logger, if one does. -/
def setupFor? (s : Session) (logger : String) : Option LogSetup :=
  if isWritten logger then s.setup else none

/-- The level from which calls count: that of the setup, or warnings where none takes the records. -/
def threshold (s : Session) (logger : String) : LogLevel :=
  match s.setupFor? logger with
  | some setup => setup.level
  | none => .warning

/-- The record of a call at the time of the session. -/
def record (s : Session) (call : LogCall) : LogRecord where
  created := s.clock
  logger := call.logger
  severity := call.level.severity
  message := call.message
  args := call.args
  fields := call.fields

/-- What a record adds to the output of a setup. -/
def output (s : Session) (setup : LogSetup) (call : LogCall) : String :=
  let r := s.record call
  let r := if setup.includeContext then r.stamp s.context else r
  match setup.line r with
  | .ok line => line ++ "\n"
  | .error _ => ""

/-- What a record adds to the stream of the last resort. -/
def fallback (s : Session) (call : LogCall) : String :=
  match (s.record call).text with
  | .ok message => message ++ "\n"
  | .error _ => ""

/-- What a call writes, and where. -/
def log (s : Session) (call : LogCall) : Except LogFault (LogStream × String) :=
  match call.fields.keys.find? parameterNames.contains with
  | some name => .error (.parameterName name)
  | none =>
    if call.level.severity < (s.threshold call.logger).severity then .ok (.configured, "")
    else
      match call.fields.keys.find? recordAttributes.contains with
      | some name => .error (.attributeName name)
      | none =>
        match s.setupFor? call.logger with
        | some setup => .ok (.configured, s.output setup call)
        | none => .ok (.lastResort, s.fallback call)

/-- What an entry adds to the configured output; an entry that is refused adds nothing. -/
def write (s : Session) (e : LogEntry) : String :=
  match (s.push e.context).log e.call with
  | .ok (.configured, text) => text
  | _ => ""

/-- What entries add to the configured output, one after the other. -/
def writeAll (s : Session) (entries : List LogEntry) : String :=
  String.join (entries.map s.write)

end Session

end StructGen.Log
