import StructGen.Keyed
import StructGen.Log.Fault
import StructGen.Log.Instant
import StructGen.Log.Level
import StructGen.Log.Message
import StructGen.Value.Line
/-!
# Records

A record is a message with its time, logger and level, and the fields that were attached to it. It
is written as one line of JSON, or as a line for people in which the level is coloured. Neither is
made of a record that shows an integer which cannot be written.
-/
namespace StructGen.Log

open Number

/-- A record of the log. A field of the name `name`, `levelname`, `created`, `msg` or `args` takes
the place of the part of the record that has this name. -/
structure LogRecord where
  created : Instant
  logger : String
  severity : Int
  message : String
  args : List Value := []
  fields : Keyed Value := []
deriving Repr, Inhabited

/-- The attributes that every record has; a field of such a name is not shown. -/
def recordAttributes : List String :=
  ["name", "msg", "args", "levelname", "levelno", "pathname", "filename", "module", "exc_info",
    "exc_text", "stack_info", "lineno", "funcName", "created", "msecs", "relativeCreated", "thread",
    "threadName", "processName", "process", "message", "asctime"]

/-- The name under which a record gives its message. -/
def messageName : String :=
  "getMessage"

/-- The fields that tell where in a run a record was made. -/
def contextFields : List String :=
  ["run_id", "model", "column", "association"]

/-- The field is shown: it is no attribute of records, and its name has no underscore in front. -/
def isShown (key : String) : Bool :=
  !recordAttributes.contains key && key.toList.head? != some '_'

/-- The fields of `contextFields` that are set, in that order. -/
def setContext (names : List String) (fields : Keyed Value) : Keyed Value :=
  names.filterMap fun key =>
    match fields.get? key with
    | some .null | none => none
    | some v => some (key, v)

namespace LogRecord

/-- The name of the logger. -/
def loggerValue (r : LogRecord) : Value :=
  (r.fields.get? "name").getD (.text r.logger)

/-- The name of the level. The number of a record has a name even where a field takes its place. -/
def levelValue (r : LogRecord) : Except LogFault Value := do
  let name ← (levelName r.severity).mapError .digits
  return (r.fields.get? "levelname").getD (.text name)

/-- The time of a record. -/
def instant (r : LogRecord) : Except LogFault Instant :=
  ((r.fields.get? "created").map Instant.ofValue).getD (.ok r.created)

/-- The arguments of the message. -/
def arguments (r : LogRecord) : Arguments :=
  ((r.fields.get? "args").map Arguments.ofValue).getD (Arguments.ofList r.args)

/-- The message with its placeholders filled. -/
def text (r : LogRecord) : Except LogFault String :=
  if (r.fields.get? messageName).isSome then .error .hiddenMessage
  else do
    let message ← (((r.fields.get? "msg").map Value.display).getD (.ok r.message)).mapError .digits
    (formatMessage message r.arguments).mapError .unfilled

/-- The fields that are shown. -/
def shownFields (r : LogRecord) : Keyed Value :=
  r.fields.filter fun e => isShown e.1

/-- Adds the entries of a context that the record has no field or attribute for. -/
def stamp (r : LogRecord) (context : Keyed Value) : LogRecord :=
  let fresh := context.filter fun e =>
    (r.fields.get? e.1).isNone && !recordAttributes.contains e.1 && e.1 != messageName
  { r with fields := r.fields.putAll fresh }

/-! ## JSON -/

/-- The entries of a record that stand in every line. -/
def head (r : LogRecord) : Except LogFault (Keyed Value) := do
  let level ← r.levelValue
  let created ← r.instant
  let time ← created.iso
  let message ← r.text
  return [("timestamp", .text time), ("level", level), ("logger", r.loggerValue),
    ("message", .text message)]

/-- The fields that belong to no context. -/
def extra (r : LogRecord) : Keyed Value :=
  r.shownFields.filter fun e => !contextFields.contains e.1

/-- A record as a line of JSON; with `includeExtra`, the fields of no context are added. -/
def json (r : LogRecord) (includeExtra : Bool) : Except LogFault String := do
  let head ← r.head
  let extra := if includeExtra && !r.extra.isEmpty then [("extra", Value.dict r.extra)] else []
  (Value.dict (head ++ setContext contextFields r.shownFields ++ extra)).line.mapError .digits

/-! ## Text -/

/-- The colour of a level. -/
def colour? (level : String) : Option String :=
  [("DEBUG", "\x1b[36m"), ("INFO", "\x1b[32m"), ("WARNING", "\x1b[33m"), ("ERROR", "\x1b[31m"),
    ("CRITICAL", "\x1b[35m")].lookup level

/-- The width of the level's name. -/
def levelWidth : Nat := 8

/-- Spaces that bring a text to the width of the level's name. -/
def levelPadding (s : String) : String :=
  String.ofList (List.replicate (levelWidth - s.length) ' ')

/-- The level's name at its width: text to the left, numbers to the right. -/
def paddedLevel (useColours : Bool) : Value → Except LogFault String
  | .text s =>
    let padded := s ++ levelPadding s
    match colour? s with
    | some colour => .ok (if useColours then colour ++ padded ++ "\x1b[0m" else padded)
    | none => .ok padded
  | .bool b => let s := if b then "1" else "0"; .ok (levelPadding s ++ s)
  | .int n => ((showInt n).mapError .digits).map fun s => levelPadding s ++ s
  | .float x => .ok (levelPadding x.text ++ x.text)
  | .decimal d => .ok (levelPadding d.text ++ d.text)
  | _ => .error .unpaddable

/-- A value behind its name. -/
def assigned (e : String × Value) : Except DigitFault String :=
  e.2.display.map fun text => e.1 ++ "=" ++ text

/-- Entries in brackets, if there are any. -/
def bracketed : Keyed Value → Except DigitFault String
  | [] => .ok ""
  | entries =>
    (entries.mapM assigned).map fun texts => " [" ++ String.intercalate ", " texts ++ "]"

/-- A record as a line for people. -/
def plain (r : LogRecord) (useColours : Bool) : Except LogFault String := do
  let levelValue ← r.levelValue
  let created ← r.instant
  let time ← created.plain
  let level ← paddedLevel useColours levelValue
  let context ← (bracketed (setContext contextFields.tail r.fields)).mapError .digits
  let logger ← r.loggerValue.display.mapError .digits
  let message ← r.text
  return time ++ " " ++ level ++ " " ++ logger ++ context ++ ": " ++ message

end LogRecord

end StructGen.Log
