import StructGen.Fault
import StructGen.Source
/-!
# The connection file

One file of a run opens the database. It is the same for every run but for its package, the three
imports of other modules, sorted by path, and the line that opens the connection.
-/
namespace StructGen

/-- How a database is reached: driver name, data source name and the driver's package. -/
structure Connection where
  driverName : String
  dsn : String
  driverPackage : String
deriving DecidableEq, Repr, Inhabited

/-- A connection as a dictionary. -/
def Connection.toValue (c : Connection) : Value :=
  .dict [
    ("driver_name", .text c.driverName),
    ("dsn", .text c.dsn),
    ("driver_package", .text c.driverPackage)]

/-- The database dialects. -/
inductive Dialect
  | mysql
  | postgres
  | sqlite
deriving DecidableEq, Repr, Inhabited

namespace Dialect

/-- The dialects in the order of their drivers' names. -/
def all : List Dialect :=
  [mysql, postgres, sqlite]

/-- The name of the driver that a dialect is used with. -/
def driverName : Dialect → String
  | mysql => "mysql"
  | postgres => "postgres"
  | sqlite => "sqlite3"

/-- The package of a dialect. -/
def importPath : Dialect → String
  | mysql => "gorm.io/driver/mysql"
  | postgres => "gorm.io/driver/postgres"
  | sqlite => "gorm.io/driver/sqlite"

/-- What stands before and after the settings of a dialect's value. -/
def frame : Dialect → String × String
  | mysql => ("mysql.New(mysql.Config\x7b", "\x7d)")
  | postgres => ("postgres.New(postgres.Config\x7b", "\x7d)")
  | sqlite => ("&sqlite.Dialector\x7b", "\x7d")

/-- The expression that makes a dialect's value. -/
def expression (d : Dialect) (dsn : String) : String :=
  d.frame.1 ++ "DriverName: " ++ Text.quote d.driverName ++ ", DSN: " ++ Text.quote dsn ++
    d.frame.2

/-- The dialect of a driver. -/
def ofDriver (driver : String) : Except Fault Dialect :=
  match all.find? (·.driverName = driver) with
  | some d => .ok d
  | none => .error (.unsupportedDriver driver (all.map driverName))

end Dialect

/-- An import: a path, and the blank name before it if only its effects are wanted. -/
structure Import where
  path : String
  blank : Bool := false
deriving DecidableEq, Repr

namespace Import

/-- The name before a path. -/
def binding (i : Import) : String :=
  if i.blank then "_ " else ""

/-- The line of an import. -/
def line (i : Import) : String :=
  "\t" ++ i.binding ++ Text.quote i.path

/-- Order by path, then by the name before it. -/
def le (a b : Import) : Bool :=
  decide (a.path < b.path) || (a.path == b.path && (!a.blank || b.blank))

end Import

/-- The path of a driver's package, which may be given as it stands in an import: in quotes, and
with a blank name before it. -/
def driverPath (driverPackage : String) : String :=
  let path := Text.strip Text.isBlank driverPackage.toList
  let path := match path with
    | '_' :: rest => Text.strip Text.isBlank rest
    | path => path
  String.ofList (Text.strip (· == '"') path)

/-- The imports of a connection file that are no part of the standard library, sorted. -/
def connectionImports (d : Dialect) (driverPackage : String) : List Import :=
  [⟨driverPath driverPackage, true⟩, ⟨d.importPath, false⟩, ⟨"gorm.io/gorm", false⟩].mergeSort
    Import.le

/-- The planned lines of a connection file. -/
def connectionLines (d : Dialect) (dsn driverPackage : String) (p : Package) : List String :=
  openingLines p ++ ["import (", "\t\"log\"", ""] ++
    (connectionImports d driverPackage).map Import.line ++
    [")",
      "",
      "// DB is the database handle shared by the generated models.",
      "var DB *gorm.DB",
      "",
      "func init() \x7b",
      "\tvar err error",
      "\tDB, err = gorm.Open(" ++ d.expression dsn ++ ", &gorm.Config\x7b\x7d)",
      "\tif err != nil \x7b",
      "\t\tlog.Fatalf(\"Got error when connect database, the error is '%v'\", err)",
      "\t\x7d",
      "\x7d"]

/-- The connection file. -/
def Connection.render (c : Connection) (p : Package) : Except Fault String := do
  let d ← Dialect.ofDriver c.driverName
  return fileText (connectionLines d c.dsn c.driverPackage p)

end StructGen
