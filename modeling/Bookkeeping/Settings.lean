import Bookkeeping.Failure
import Bookkeeping.Text.LetterCase

set_option autoImplicit false

/-! # Settings

What a deployment is told by its environment: where the data lies, how it logs, and how entries are
numbered. Every variable has a default; only the number of retries has to be a number. -/

namespace Bookkeeping

/-- The settings of a deployment. -/
structure Settings where
  databaseType : String := "sqlite"
  databasePath : String := "./data/ledger.db"
  databaseUrl : Option String := none
  dbHost : String := "localhost"
  dbPort : String := "5432"
  dbName : String := "ledger"
  dbUser : String := "postgres"
  dbPassword : String := "postgres"
  logLevel : String := "INFO"
  logFormat : String := "console"
  numberWord : String := "JE"
  maxRetries : Int := 5
  deriving DecidableEq, Repr

namespace Settings

/-- The settings when no variable is set. -/
def default : Settings := {}

/-! ## Reading the environment -/

/-- An empty text counts as none. -/
def unlessEmpty (s : Option String) : Option String := s.filter fun t => !t.isEmpty

/-- Read the number of retries. -/
def readRetries : Option String → Except ValueFault Int
  | none => .ok default.maxRetries
  | some s =>
      match Text.readInt s.toList with
      | .ok n => .ok n
      | .error f => .error (.number s f)

/-- The settings that an environment gives: the level of the log in upper case, its format in lower
    case. -/
def ofEnvironment (env : String → Option String) : Except ValueFault Settings := do
  let maxRetries ← readRetries (env "ENTRY_NUMBER_MAX_RETRIES")
  let get (name fallback : String) : String := (env name).getD fallback
  return {
    databaseType := get "DATABASE_TYPE" default.databaseType
    databasePath := get "DATABASE_PATH" default.databasePath
    databaseUrl := unlessEmpty (env "DATABASE_URL")
    dbHost := get "DB_HOST" default.dbHost
    dbPort := get "DB_PORT" default.dbPort
    dbName := get "DB_NAME" default.dbName
    dbUser := get "DB_USER" default.dbUser
    dbPassword := get "DB_PASSWORD" default.dbPassword
    logLevel := Text.upper (get "LOG_LEVEL" default.logLevel)
    logFormat := Text.lower (get "LOG_FORMAT" default.logFormat)
    numberWord := get "ENTRY_NUMBER_PREFIX" default.numberWord
    maxRetries }

/-! ## What follows from them -/

/-- The address of the database: the one that is given, else one made from the parts that belong to the
    type of the database. -/
def engineUrl (s : Settings) : Except ValueFault String :=
  match s.databaseUrl with
  | some url => .ok url
  | none =>
    if s.databaseType = "sqlite" then .ok ("sqlite:///" ++ s.databasePath)
    else if s.databaseType = "postgresql" then
      .ok ("postgresql://" ++ s.dbUser ++ ":" ++ s.dbPassword ++ "@" ++ s.dbHost ++ ":" ++ s.dbPort
        ++ "/" ++ s.dbName)
    else .error (.databaseType s.databaseType)

/-- How log lines are laid out. -/
inductive LogLayout where
  /-- A document on each line. -/
  | documents
  /-- Words for a reader. -/
  | plain
  deriving DecidableEq, Repr

/-- The layout of log lines; every format but `json` is plain. -/
def logLayout (s : Settings) : LogLayout :=
  if s.logFormat = "json" then .documents else .plain

/-- Parts of a deployment around the ledger that write to the same log. -/
inductive LogNeighbour where
  /-- The connection to the database. -/
  | database
  /-- The server that takes requests. -/
  | server
  deriving DecidableEq, Repr

/-- What is logged where. -/
structure LogSetup where
  layout : LogLayout
  /-- The level of all parts without a level of their own. -/
  level : String
  /-- Parts that only warnings and worse are taken from. -/
  quiet : List LogNeighbour
  deriving DecidableEq, Repr

/-- The log of a deployment. -/
def logSetup (s : Settings) : LogSetup :=
  ⟨s.logLayout, s.logLevel, [.database, .server]⟩

end Settings

end Bookkeeping
