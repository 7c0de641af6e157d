import StructGen.Log.Fault
import StructGen.Text.Casing
/-!
# Levels and formats

The levels of a log in order of severity, and the two forms a record is written in.
-/
namespace StructGen.Log

open Number

/-- The levels. -/
inductive LogLevel
  | debug
  | info
  | warning
  | error
  | critical
deriving DecidableEq, Repr, Inhabited

namespace LogLevel

/-- The levels from the least severe to the most. -/
def all : List LogLevel :=
  [debug, info, warning, error, critical]

/-- The number of a level. -/
def severity : LogLevel → Int
  | debug => 10
  | info => 20
  | warning => 30
  | error => 40
  | critical => 50

/-- The name of a level. -/
def name : LogLevel → String
  | debug => "DEBUG"
  | info => "INFO"
  | warning => "WARNING"
  | error => "ERROR"
  | critical => "CRITICAL"

/-- The level of a name in any case. -/
def ofText (text : String) : Except LogFault LogLevel :=
  let wanted := Text.upper text
  match all.find? (·.name = wanted) with
  | some l => .ok l
  | none => .error (.unknownLevel wanted)

end LogLevel

/-- The name of a level number; a number between the levels has none of its own. -/
def levelName (severity : Int) : Except DigitFault String :=
  match LogLevel.all.find? (·.severity = severity) with
  | some l => .ok l.name
  | none => if severity = 0 then .ok "NOTSET" else (showInt severity).map ("Level " ++ ·)

/-- The forms of a record: one line of JSON, or a line for people. -/
inductive LogFormat
  | json
  | text
deriving DecidableEq, Repr, Inhabited

namespace LogFormat

/-- Both formats. -/
def all : List LogFormat :=
  [json, text]

/-- The name of a format. -/
def name : LogFormat → String
  | json => "json"
  | text => "text"

/-- The format of a name in any case. -/
def ofText (text : String) : Except LogFault LogFormat :=
  let wanted := Text.lower text
  match all.find? (·.name = wanted) with
  | some f => .ok f
  | none => .error (.unknownFormat wanted)

end LogFormat

end StructGen.Log
