import StructGen.Source.Connection
/-!
# Database settings

The settings of one environment name an adapter and its parameters. Adapters with a driver are
turned into a connection, unless their port cannot be written; the other adapters have none.
Environments have short names.
-/
namespace StructGen

open Number

/-- The settings of one environment. -/
structure DatabaseSettings where
  adapter : String
  database : String := ""
  host : Option String := none
  port : Option Int := none
  username : Option String := none
  password : Option String := none
  encoding : Option String := none
deriving DecidableEq, Repr, Inhabited

/-- Settings as a dictionary. -/
def DatabaseSettings.toValue (s : DatabaseSettings) : Value :=
  .dict [
    ("adapter", .text s.adapter),
    ("database", .text s.database),
    ("host", .textOrNull s.host),
    ("port", (s.port.map Value.int).getD .null),
    ("username", .textOrNull s.username),
    ("password", .textOrNull s.password),
    ("encoding", .textOrNull s.encoding)]

/-- A text that is set and not empty, or a fallback. -/
def textOr (s : Option String) (fallback : String) : String :=
  match s with
  | some s => if s = "" then fallback else s
  | none => fallback

namespace DatabaseSettings

/-- The host; the local one unless it is set. -/
def effectiveHost (s : DatabaseSettings) : String :=
  textOr s.host "localhost"

/-- The user name; empty unless it is set. -/
def effectiveUser (s : DatabaseSettings) : String :=
  textOr s.username ""

/-- The password; empty unless it is set. -/
def effectivePassword (s : DatabaseSettings) : String :=
  textOr s.password ""

/-- The character set; UTF-8 unless it is set. -/
def effectiveEncoding (s : DatabaseSettings) : String :=
  textOr s.encoding "utf8"

/-- The port; that of MySQL unless it is set and not zero. -/
def effectivePort (s : DatabaseSettings) : Int :=
  match s.port with
  | some n => if n = 0 then 3306 else n
  | none => 3306

/-- The data source name for MySQL. -/
def mysqlDsn (s : DatabaseSettings) : Except DigitFault String := do
  let port ← showInt s.effectivePort
  return s.effectiveUser ++ ":" ++ s.effectivePassword ++ "@tcp(" ++ s.effectiveHost ++ ":" ++
    port ++ ")/" ++ s.database ++ "?charset=" ++ s.effectiveEncoding ++
    "&parseTime=True&loc=Local"

/-- The data source name for PostgreSQL. -/
def postgresDsn (s : DatabaseSettings) : String :=
  "host=" ++ s.effectiveHost ++ " user=" ++ s.effectiveUser ++ " dbname=" ++ s.database ++
    " sslmode=disable password=" ++ s.effectivePassword

/-- The connection of the settings, if their adapter has a driver. A database file lies above the
directory of the emitted package. -/
def connection? (s : DatabaseSettings) : Except DigitFault (Option Connection) :=
  if s.adapter = "sqlite3" then
    .ok (some {
      driverName := "sqlite3"
      dsn := "../" ++ s.database
      driverPackage := "github.com/mattn/go-sqlite3" })
  else if s.adapter = "mysql2" then
    s.mysqlDsn.map fun dsn => some {
      driverName := "mysql"
      dsn
      driverPackage := "github.com/go-sql-driver/mysql" }
  else if s.adapter = "postgresql" then
    .ok (some {
      driverName := "postgres"
      dsn := s.postgresDsn
      driverPackage := "github.com/lib/pq" })
  else .ok none

end DatabaseSettings

/-- Short names of environments. -/
def environmentAliases : List (String × String) :=
  [("dev", "development"), ("pro", "production")]

/-- The environment that is meant by a name, if it is available. -/
def resolveEnvironment (name : String) (available : List String) : Except Fault String :=
  let environment := (environmentAliases.lookup name).getD name
  if available.contains environment then .ok environment
  else .error (.environmentNotFound environment available)

end StructGen
