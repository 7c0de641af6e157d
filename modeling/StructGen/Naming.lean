import StructGen.Naming.Words
import StructGen.Text.Casing
/-!
# Names

Conversions between the names of a schema and the names of the emitted source: exported
identifiers (`customer_id` to `CustomerID`), file stems (`LineItem` to `line_item`) and the class
names that a requested identifier stands for (`admin/user` to `Admin.User`).
-/
namespace StructGen

open Naming

/-- Words that Go style keeps in capitals. -/
def initialisms : List String :=
  ["ACL", "API", "ASCII", "CPU", "CSS", "DNS", "EOF", "GUID", "HTML", "HTTP", "HTTPS", "ID", "IP",
    "JSON", "LHS", "QPS", "RAM", "RHS", "RPC", "SLA", "SMTP", "SQL", "SSH", "TCP", "TLS", "TTL",
    "UDP", "UI", "UID", "UUID", "URI", "URL", "UTF8", "VM", "XML", "XMPP", "XSRF", "XSS"]

/-- A word of an exported identifier: an initialism in capitals, or capitalised. -/
def exportedWord (w : List Char) : List Char :=
  let capitals := w.map Char.toUpper
  if initialisms.contains (String.ofList capitals) then capitals
  else
    match w with
    | [] => []
    | c :: rest => c.toUpper :: rest.map Char.toLower

/-- The exported Go identifier for a schema name. A name with no word, or with a digit first, gets
an `X` in front. -/
def goName (s : String) : String :=
  let name := (words s.toList).flatMap exportedWord
  match name with
  | [] => "X"
  | c :: _ => String.ofList (if c.isDigit then 'X' :: name else name)

/-- The words of an identifier. -/
def splitWords (s : String) : List String :=
  (words s.toList).map String.ofList

/-- The words of an identifier in lower case with underscores between them. -/
def underscore (s : String) : String :=
  String.ofList (['_'].intercalate ((words s.toList).map (·.map Char.toLower)))

/-- Reads each `::` as a slash. -/
def slashed : List Char → List Char
  | ':' :: ':' :: rest => '/' :: slashed rest
  | c :: rest => c :: slashed rest
  | [] => []

/-- The words between underscores, each with its first character in upper case. -/
def camelSegment (s : List Char) : List Char :=
  (Text.runs (· == '_') s).flatMap Text.capitalize

/-- The class name a requested identifier stands for: each segment between slashes, points or
double colons is camelized, and the segments are joined by points. -/
def camelize (s : String) : String :=
  let segments := Text.runs (fun c => c == '/' || c == '.')
    (slashed (Text.strip Text.isBlank s.toList))
  String.ofList (['.'].intercalate (segments.map camelSegment))

end StructGen
