import StructGen.ColumnType
/-!
# Declared column types

A column is declared with a class of the type library, with a type of its own, or with a decorator
over another type. Its source type follows from the ancestry of the class; one decorator is looked
through.
-/
namespace StructGen.Declared

/-- The type of a column as it is declared. -/
inductive SqlType
  /-- A type of the type library, with its length if it has one. -/
  | named (className : String) (length : Option Int)
  /-- An enumeration of texts. -/
  | enum (values : List String)
  /-- A type that changes the values of another. -/
  | decorator (className : String) (inner : SqlType)
  /-- A type of which nothing but its class is known. -/
  | user (className : String)
deriving Repr, Inhabited

/-- What the types of the type library are, by class. -/
def libraryTypes : List (String × ColumnType) :=
  ["Integer", "SmallInteger", "INTEGER", "SMALLINT"].map (·, .integer) ++
  ["BigInteger", "BIGINT"].map (·, .bigint) ++
  ["Float", "Double", "REAL", "FLOAT", "DOUBLE", "DOUBLE_PRECISION"].map (·, .float) ++
  ["Numeric", "DECIMAL", "NUMERIC"].map (·, .decimal) ++
  ["Boolean", "BOOLEAN"].map (·, .boolean) ++
  ["Date", "DATE"].map (·, .date) ++
  ["DateTime", "DATETIME"].map (·, .datetime) ++
  ["TIMESTAMP"].map (·, .timestamp) ++
  ["String", "Unicode", "VARCHAR", "CHAR", "NVARCHAR", "NCHAR"].map (·, .string) ++
  ["Text", "UnicodeText", "TEXT", "CLOB"].map (·, .text) ++
  ["LargeBinary", "BLOB"].map (·, .binary)

namespace SqlType

/-- Types of the type library that are decorators of others. -/
def libraryDecorators : List (String × String) :=
  [("Interval", "DateTime"), ("PickleType", "LargeBinary")]

/-- A type with the decorators of the type library spelled out. -/
def expand : SqlType → SqlType
  | named className length =>
    match libraryDecorators.lookup className with
    | some inner => decorator className (named inner none)
    | none => named className length
  | t => t

/-- The class of a type. -/
def className : SqlType → String
  | named c _ => c
  | enum _ => "Enum"
  | decorator c _ => c
  | user c => c

/-- The column type that a type without decorators is of, by its ancestry. -/
def ancestor? : SqlType → Option ColumnType
  | named c _ => libraryTypes.lookup c
  | enum _ => some .string
  | decorator .. | user _ => none

/-- The source type of a column: that of the type under one decorator, or the name of its class. -/
def source (t : SqlType) : String :=
  let seen := match t.expand with
    | decorator _ inner => inner.expand
    | t => t
  match seen.ancestor? with
  | some c => c.name
  | none => Text.lower seen.className

/-- The declared length, which decorators pass on. -/
def length? : SqlType → Option Int
  | named _ length => length
  | enum values => some (values.foldl (fun n v => max n v.length) 0 : Nat)
  | decorator _ inner => inner.length?
  | user _ => none

end SqlType

end StructGen.Declared
