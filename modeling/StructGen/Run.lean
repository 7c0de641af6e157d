import StructGen.Run.Conversion
import StructGen.Run.Disk
import StructGen.Run.Gathered
import StructGen.Run.Trace
import StructGen.Source.Connection
/-!
# Runs

A run converts the requested models and writes one file for each, and one for the connection. The
first pass looks every identifier up, the second resolves and synthesizes. A model that fails is
reported and harms no other.
-/
namespace StructGen

open Log

/-- What a run needs to know but the models. -/
structure RunSettings where
  package : Package
  layout : Layout := {}
  connection : Option Connection := none

/-- What a run writes and says. -/
structure RunResult where
  files : List GeneratedFile := []
  diagnostics : List Diagnostic := []
  log : List LogEntry := []
deriving Repr, Inhabited

namespace RunResult

/-- The models that a file was written for. -/
def converted (r : RunResult) : List String :=
  r.files.filterMap (·.model)

/-- The diagnostics that report what was left out. -/
def warnings (r : RunResult) : List Diagnostic :=
  r.diagnostics.filter (·.isWarning)

/-- The diagnostics that report a failure. -/
def failures (r : RunResult) : List Diagnostic :=
  r.diagnostics.filter (·.isFailure)

/-- The file of a model. -/
def file? (r : RunResult) (model : String) : Option GeneratedFile :=
  r.files.find? (·.model = some model)

/-- The diagnostic stream by lines. -/
def lines (r : RunResult) : List String :=
  r.diagnostics.map (·.line)

/-- The text of the diagnostic stream. -/
def stream (r : RunResult) : String :=
  String.join (r.lines.map (· ++ "\n"))

/-- The text of the log in a session, in which every record tells the run. -/
def logText (r : RunResult) (s : Session) (runId : String) : String :=
  (s.push [("run_id", .text runId)]).writeAll r.log

end RunResult

/-- The diagnostics of a model at the end of a run. -/
def finalReport (conversions : Keyed Conversion) (e : String × List Diagnostic) :
    List Diagnostic :=
  match conversions.get? e.1 with
  | some c => e.2 ++ c.resolution.diagnostics ++ [Diagnostic.ofConverted e.1]
  | none => e.2

/-- The file of a model, if the model was converted. -/
def modelFile (settings : RunSettings) (conversions : Keyed Conversion) (model : String) :
    Option GeneratedFile :=
  (conversions.get? model).map fun c =>
    { path := settings.layout.modelPath model
      content := c.spec.render settings.package
      model := some model }

/-- The name of the connection in diagnostics. -/
def connectionName : String :=
  "connection"

/-- What a run says and writes of the connection. -/
def connectionPart (settings : RunSettings) : RunResult :=
  match settings.connection with
  | none => {}
  | some c =>
    match c.render settings.package with
    | .ok content =>
      { files := [{ path := settings.layout.connectionPath, content }]
        log := [connectionEntry c.driverName] }
    | .error fault =>
      let d := Diagnostic.ofFault connectionName fault
      { diagnostics := [d], log := [noConnectionEntry d] }

/-- Converts the models of the identifiers. -/
def generate (settings : RunSettings) (introspect : Introspect) (identifiers : List String) :
    RunResult :=
  let g := gather introspect identifiers
  let c := convert g.arena g.arena
  let reports := (c.faults.foldl (fun g f => g.report (Diagnostic.ofFault f.1 f.2)) g).reports
  let diagnostics := reports.flatMap (finalReport c.conversions)
  let last := connectionPart settings
  { files := reports.keys.filterMap (modelFile settings c.conversions) ++ last.files
    diagnostics := diagnostics ++ last.diagnostics
    log := startEntry identifiers :: g.repeated.map (fun r => repeatEntry r.1 r.2) ++
      diagnostics.map Diagnostic.trace ++ last.log }

end StructGen
