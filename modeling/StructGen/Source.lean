import StructGen.GoStruct
import StructGen.Text.Blank
import StructGen.Text.Literal
/-!
# Source files

A struct becomes one file: a header, the package clause, the imports, the struct with a comment
above each field, and the method that names its table. The file is planned as a list of lines; each
of them holds what it shows in a form that cannot break the line.
-/
namespace StructGen

/-! ## Packages -/

/-- A letter or underscore. -/
def isNameStart (c : Char) : Bool :=
  c.isUpper || c.isLower || c == '_'

/-- A letter, digit or underscore. -/
def isNameChar (c : Char) : Bool :=
  isNameStart c || c.isDigit

/-- A name of letters, digits and underscores with no digit first; one line break may follow it. -/
def isPackageName (s : String) : Bool :=
  match s.toList with
  | [] => false
  | c :: rest =>
    isNameStart c && (rest.dropWhile isNameChar == [] || rest.dropWhile isNameChar == ['\n'])

/-- The package of emitted files. -/
structure Package where
  name : String
  valid : isPackageName name = true

/-- A name that no package can have. -/
structure InvalidPackage where
  name : String
deriving DecidableEq, Repr

/-- What is wrong with a package name. -/
def InvalidPackage.message (e : InvalidPackage) : String :=
  "Invalid Go package name: " ++ Text.literal e.name

/-- The package of a name. -/
def Package.ofName (name : String) : Except InvalidPackage Package :=
  if h : isPackageName name = true then .ok ⟨name, h⟩ else .error ⟨name⟩

/-! ## Lines -/

/-- The first line of every file. -/
def fileHeader : String :=
  "// Code generated by ormgo. DO NOT EDIT."

/-- A comment on one line. -/
def commentLine (text : String) : String :=
  "// " ++ Text.oneLine text

/-- A struct tag as a literal: between backquotes, unless it holds one itself. -/
def tagLiteral (tag : String) : String :=
  if tag.toList.contains '\x60' then Text.quote tag else "\x60" ++ tag ++ "\x60"

/-- The line of a field. -/
def GoField.line (f : GoField) : String :=
  "\t" ++ f.name ++ " " ++ f.type ++ (if f.tag = "" then "" else " " ++ tagLiteral f.tag)

/-- The lines of a field: its comment, if it has one, and the field. -/
def GoField.lines (f : GoField) : List String :=
  (if f.comment = "" then [] else ["\t" ++ commentLine f.comment]) ++ [f.line]

/-- The line that imports a path. -/
def importLine (path : String) : String :=
  "\t" ++ Text.quote path

/-- The import block and the empty line after it; nothing without imports. -/
def importBlock : List String → List String
  | [] => []
  | paths => ["import ("] ++ paths.map importLine ++ [")", ""]

/-- The lines of a file up to the imports. -/
def openingLines (p : Package) : List String :=
  [fileHeader, "", "package " ++ p.name, ""]

/-- The planned lines of a struct's file. -/
def GoStruct.lines (s : GoStruct) (p : Package) : List String :=
  openingLines p ++ importBlock s.imports ++
    [commentLine (s.name ++ " maps rows of the \"" ++ s.tableName ++ "\" table."),
      "type " ++ s.name ++ " struct \x7b"] ++
    s.fields.flatMap GoField.lines ++
    ["\x7d", "",
      commentLine ("TableName returns the table " ++ s.name ++ " is stored in."),
      "func (" ++ s.name ++ ") TableName() string \x7b",
      "\treturn " ++ Text.quote s.tableName,
      "\x7d"]

/-- The text of a file: its lines, each ended by a line break. -/
def fileText (lines : List String) : String :=
  String.intercalate "\n" lines ++ "\n"

/-- The file of a struct. -/
def GoStruct.render (s : GoStruct) (p : Package) : String :=
  fileText (s.lines p)

end StructGen
