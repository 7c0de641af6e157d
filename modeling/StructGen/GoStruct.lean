import StructGen.Value
import StructGen.Text.Quoted
/-!
# Structs

A struct as it is emitted: fields with their types, tags and comments, and the packages that the
types need. A tag is a list of keys, each with a quoted value.
-/
namespace StructGen

/-- A field of a struct. -/
structure GoField where
  name : String
  type : String
  tag : String
  comment : String := ""
deriving DecidableEq, Repr, Inhabited

/-- A struct. -/
structure GoStruct where
  name : String
  tableName : String
  fields : List GoField := []
  imports : List String := []
deriving DecidableEq, Repr, Inhabited

/-- A struct tag: keys with quoted values, separated by spaces. -/
def structTag (pairs : List (String × String)) : String :=
  String.intercalate " " (pairs.map fun p => p.1 ++ ":" ++ Text.quote p.2)

/-- A field as a dictionary. -/
def GoField.toValue (f : GoField) : Value :=
  .dict [
    ("field_name", .text f.name),
    ("field_type", .text f.type),
    ("tag", .text f.tag),
    ("comment", .text f.comment)]

/-- A struct as a dictionary. -/
def GoStruct.toValue (s : GoStruct) : Value :=
  .dict [
    ("struct_name", .text s.name),
    ("table_name", .text s.tableName),
    ("fields", .list (s.fields.map GoField.toValue)),
    ("imports", .texts s.imports)]

end StructGen
