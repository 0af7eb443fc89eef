import SqlClient.Settings.Basic
import SqlClient.Text.Percent

/-!
# The address of a server

The address that settings give: credentials, host, port and database of a server, or the path of a
database file, with all other parameters and the options in the query.
-/

namespace SqlClient

namespace Settings

/-- Parameters that tell the location and are no part of the query of an address. -/
def locationKeys : List String :=
  ["host", "port", "dbname", "database", "path"]

/-- The credentials before the host. -/
def credentialText (settings : Settings) : String :=
  match settings.user?, settings.password? with
  | none, _ => ""
  | some user, none => Text.percentEncode user ++ "@"
  | some user, some password =>
      Text.percentEncode user ++ ":" ++ Text.percentEncode password ++ "@"

/-- A text behind a separator, if there is one. -/
def behind (separator : String) : Option String → String
  | none => ""
  | some text => separator ++ text

/-- The address of a server without its query. -/
def serverText (settings : Settings) (scheme : String) : String :=
  scheme ++ "://" ++ settings.credentialText ++
    (settings.params.find? "host").getD "localhost" ++
    behind ":" (settings.params.find? "port") ++
    behind "/" (((settings.params.find? "dbname").or
      (settings.params.find? "database")).map Text.percentEncode)

/-- The address of a database file without its query. -/
def fileText (settings : Settings) : String :=
  match (settings.params.find? "path").or (settings.params.find? "dbname") with
  | some path => if path = ":memory:" then "sqlite::memory:" else "sqlite://" ++ path
  | none => "sqlite::memory:"

/-- The pairs of the query: the parameters that tell no location, then the options. -/
def queryPairs (settings : Settings) : List (String × String) :=
  settings.params.filter (fun pair => !locationKeys.contains pair.1) ++ settings.options

/-- The query of an address. -/
def queryText (pairs : List (String × String)) : String :=
  "&".intercalate (pairs.map fun pair =>
    Text.percentEncode pair.1 ++ "=" ++ Text.percentEncode pair.2)

/-- The address with its query, which a file name may have opened already. -/
def address (settings : Settings) : Except SettingsError String := do
  let location :=
    match ← settings.dialect with
    | .mysql => settings.serverText "mysql"
    | .postgres => settings.serverText "postgres"
    | .sqlite => settings.fileText
  let pairs := settings.queryPairs
  if pairs.isEmpty then .ok location
  else
    let mark := if location.toList.contains '?' then "&" else "?"
    .ok (location ++ mark ++ queryText pairs)

end Settings

end SqlClient
