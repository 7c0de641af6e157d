import StructGen.Log.Message.Fault
import StructGen.Text.Literal
/-!
# Faults of logging

What can be wrong with a logging call, with the settings of the log, or with a record that is to be
written.
-/
namespace StructGen.Log

/-- What is wrong with a call, a setting or a record. -/
inductive LogFault
  /-- The level of a configuration is none. -/
  | unknownLevel (text : String)
  /-- The format of a configuration is none. -/
  | unknownFormat (text : String)
  /-- A field has the name of a parameter of the call. -/
  | parameterName (name : String)
  /-- A field has the name of an attribute of records. -/
  | attributeName (name : String)
  /-- A field hides the message. -/
  | hiddenMessage
  /-- The arguments of a message do not fill its placeholders. -/
  | unfilled (fault : MessageFault)
  /-- An integer of a record cannot be written. -/
  | digits (fault : Number.DigitFault)
  /-- A level name that cannot be padded. -/
  | unpaddable
  /-- A time is of a type that tells no time. -/
  | timeUntyped
  /-- A time is not a number. -/
  | timeUndefined
  /-- A time is out of the range of seconds. -/
  | timeOverflow
  /-- A time is in a year that a calendar cannot count. -/
  | yearUncountable
  /-- A time is in a year that has not one to four digits. -/
  | yearOutOfRange (year : Int)
deriving DecidableEq, Repr, Inhabited

/-- The message of a fault. -/
def LogFault.message : LogFault → String
  | unknownLevel text => Text.literal text ++ " is not a valid LogLevel"
  | unknownFormat text => Text.literal text ++ " is not a valid LogFormat"
  | parameterName name => "field " ++ Text.literal name ++ " has the name of a parameter"
  | attributeName name => "Attempt to overwrite " ++ Text.literal name ++ " in LogRecord"
  | hiddenMessage => "a field hides the message"
  | unfilled fault => fault.text
  | digits fault => fault.message
  | unpaddable => "the level has no text of a width"
  | timeUntyped => "a time is a number of seconds"
  | timeUndefined => "Invalid value NaN (not a number)"
  | timeOverflow => "the time has too many seconds"
  | yearUncountable => "the time has too many years"
  | yearOutOfRange year => "year " ++ toString year ++ " is out of range"

end StructGen.Log
