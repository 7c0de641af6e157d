import StructGen.Log.Session
import StructGen.Resolution
/-!
# What is logged

The calls of the log that a resolution and a run make. A diagnostic is logged by its line: failures
as errors, what was left out as warnings, conversions as information.
-/
namespace StructGen

open Log

/-- The logger of resolutions. -/
def resolutionLogger : String :=
  "ormgo.codegen.resolver"

/-- What the resolution of a model logs. -/
def Resolution.trace (r : Resolution) (model : String) : List LogEntry :=
  r.diagnostics.map fun d =>
    { call := {
        logger := resolutionLogger
        level := .warning
        message := d.line
        fields := [("model", .text model)] } }

/-- The logger of runs. -/
def runLogger : String :=
  "ormgo.codegen.generator"

/-- A call of the logger of runs. -/
def runEntry (level : LogLevel) (message : String) (fields : Keyed Value := []) : LogEntry where
  call := { logger := runLogger, level, message, fields }

/-- The level that a diagnostic is logged at. -/
def Diagnostic.level (d : Diagnostic) : LogLevel :=
  if d.isFailure then .error else if d.isWarning then .warning else .info

/-- What a run logs of a diagnostic; of a failure also the code. -/
def Diagnostic.trace (d : Diagnostic) : LogEntry :=
  runEntry d.level d.line
    (("model", .text d.model) :: if d.isFailure then [("code", .textOrNull d.code)] else [])

/-- What a run logs first. -/
def startEntry (identifiers : List String) : LogEntry :=
  runEntry .info ("Converting models: " ++ String.intercalate ", " identifiers)

/-- What a run logs of an identifier that leads to a model again. -/
def repeatEntry (identifier model : String) : LogEntry :=
  { runEntry .debug ("Model " ++ model ++ " requested more than once") with
    context := [("model", .text identifier)] }

/-- What a run logs when the connection file is written. -/
def connectionEntry (driver : String) : LogEntry :=
  runEntry .info ("Generated connection file for driver " ++ driver)

/-- What a run logs when there is no connection file. -/
def noConnectionEntry (d : Diagnostic) : LogEntry :=
  runEntry .error d.line [("code", .textOrNull d.code)]

end StructGen
