import SqlClient.Dialect
import SqlClient.Dictionary
import SqlClient.Json.Scanner

/-!
# Connection settings

How to connect: the driver name, the credentials, driver options and free connection parameters;
and why settings cannot be used.
-/

namespace SqlClient

/-- How to connect. -/
structure Settings where
  /-- The driver name, which tells the dialect. -/
  driver : String
  user? : Option String := none
  password? : Option String := none
  options : Dictionary String := []
  /-- All other parameters. -/
  params : Dictionary String := []
  deriving DecidableEq, Repr

/-- Why a file cannot be read. -/
inductive FileFault where
  | notFound
  /-- The bytes are not UTF-8. -/
  | notText
  /-- Any other report of the system. -/
  | other (report : String)
  deriving DecidableEq, Repr

def FileFault.text : FileFault → String
  | .notFound => "No such file or directory (os error 2)"
  | .notText => "stream did not contain valid UTF-8"
  | .other report => report

/-- Why settings cannot be used. -/
inductive SettingsError where
  /-- A driver name of no dialect. -/
  | unknownDriver (name : String)
  /-- A file that cannot be read. -/
  | unreadable (path : String) (fault : FileFault)
  /-- Text that holds no settings. -/
  | malformed (fault : Json.Fault)
  deriving DecidableEq, Repr

def SettingsError.message : SettingsError → String
  | .unknownDriver name => "configuration error (invalid configuration): unknown driver: " ++ name
  | .unreadable path fault =>
      "configuration error (invalid configuration): cannot read " ++ path ++ ": " ++ fault.text
  | .malformed .unfinished => "invalid connection configuration: unexpected end of text"
  | .malformed .malformed => "invalid connection configuration: malformed text"
  | .malformed .mismatched => "invalid connection configuration: unexpected shape"

namespace Settings

def setParam (settings : Settings) (key value : String) : Settings :=
  { settings with params := settings.params.insert key value }

def setOption (settings : Settings) (key value : String) : Settings :=
  { settings with options := settings.options.insert key value }

def setCredentials (settings : Settings) (user : String) (password? : Option String) : Settings :=
  { settings with user? := some user, password? }

/-- The dialect of the driver name. -/
def dialect (settings : Settings) : Except SettingsError Dialect :=
  match Dialect.ofDriverName? settings.driver with
  | some dialect => .ok dialect
  | none => .error (.unknownDriver settings.driver)

end Settings

/-- What a session does when its connection is lost. -/
inductive ReconnectPolicy where
  /-- The loss is reported. -/
  | disabled
  /-- It connects until that succeeds, with a pause between attempts. -/
  | unbounded (pauseSeconds : Nat)
  deriving DecidableEq, Repr

end SqlClient
