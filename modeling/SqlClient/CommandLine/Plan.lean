import SqlClient.CommandLine.Basic
import SqlClient.Placeholder
import SqlClient.Session.Error
import SqlClient.Settings.Address

/-!
# Plans

What a request comes to before anything is sent: the address of the server, the text in the form
of its dialect and the values lined up with the placeholders.
-/

namespace SqlClient

namespace CommandLine

/-- The message about arguments that are not run. -/
def UsageError.message : UsageError → String
  | .missingArgument => "an argument is missing"
  | .conflict => "an argument cannot be used with another one or twice"
  | .unknownArgument => "an argument is not known"
  | .badValue => "a value cannot be read"
  | .missingValue => "an option needs a value"
  | .extraValue => "an option takes no value"
  | .unknownCommand => "the command is not known"
  | .missingCommand => "a command is missing"
  | .nothingGiven => usage
  | .helpWanted => usage
  | .versionWanted => "0.1.0"
where
  /-- The forms of a request. -/
  usage : String :=
    "usage: [--config FILE | --connection JSON] [--reconnect SECONDS] [--verbose]\n" ++
    "       query SQL [--param NAME=VALUE]... [--json]\n" ++
    "       exec SQL [--param NAME=VALUE]..."

/-- What a request comes to. -/
structure Plan where
  address : String
  sql : String
  /-- The values to send with it. -/
  values : List Scalar
  deriving DecidableEq, Repr

def Request.plan (request : Request) (settings : Settings) : Except SessionError Plan := do
  let dialect ← settings.dialect.mapError .settings
  let address ← settings.address.mapError .settings
  let (sql, values) ←
    (request.params.bind dialect request.sql).mapError fun unbound => .missingParameter unbound.name
  .ok ⟨address, sql, values⟩

/-- The lines that show a plan: the address, the text and one line for each value. -/
def Plan.lines (plan : Plan) : List String :=
  [plan.address, plan.sql] ++ plan.values.map Scalar.cell

end CommandLine

end SqlClient
