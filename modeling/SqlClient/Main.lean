import SqlClient.CommandLine.Plan
import SqlClient.Settings.Reader

/-!
# Command line

Reads the arguments and the settings, and shows what would be sent where. Opening connections is
left to the program that links a database client.
-/

namespace SqlClient

namespace CommandLine

/-- The content of a file, or why it cannot be read. -/
def readFile (path : String) : IO (Except FileFault ByteArray) := do
  try
    return .ok (← IO.FS.readBinFile path)
  catch
    | .noFileOrDirectory .. => return .error .notFound
    | error => return .error (.other (toString error))

/-- The settings that a request names. -/
def readSettings (request : Request) : IO (Except SettingsError (Option Settings)) := do
  match request.config?, request.connection? with
  | some path, _ => return (Settings.ofFile path (← readFile path)).map some
  | none, some text => return (Settings.parse text).map some
  | none, none => return .ok none

/-- The plan of a request, shown. The result is the exit code. -/
def showPlan (request : Request) : IO UInt32 := do
  match ← readSettings request with
  | .error error =>
      IO.eprintln error.message
      return 1
  | .ok none =>
      IO.eprintln "no connection configured: pass --config or --connection"
      return 1
  | .ok (some settings) =>
      match request.plan settings with
      | .error error =>
          IO.eprintln error.message
          return 1
      | .ok plan =>
          for line in plan.lines do
            IO.println line
          return 0

end CommandLine

end SqlClient

def main (arguments : List String) : IO UInt32 := do
  match SqlClient.CommandLine.parse arguments with
  | .ok request => SqlClient.CommandLine.showPlan request
  | .error .helpWanted =>
      IO.println (SqlClient.CommandLine.UsageError.message .helpWanted)
      return 0
  | .error .versionWanted =>
      IO.println (SqlClient.CommandLine.UsageError.message .versionWanted)
      return 0
  | .error error =>
      IO.eprintln error.message
      return 2
