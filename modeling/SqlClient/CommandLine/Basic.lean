import SqlClient.CommandLine.Grammar
import SqlClient.Statement.Binds

/-!
# Command line

The arguments of the program: where to connect, and one command that runs a query or a statement
with named parameters.
-/

namespace SqlClient

namespace CommandLine

/-- A parameter argument without an equals sign. -/
structure ParamFault where
  argument : String
  deriving DecidableEq, Repr

/-- The message about a parameter argument. -/
def ParamFault.message (fault : ParamFault) : String :=
  "expected name=value, got " ++ fault.argument

/-- The scalar of a parameter value: null, integers and numbers keep their kind, all else is
text. -/
def readScalar (text : String) : Scalar :=
  if Text.sameIgnoringCase text "null" then .null
  else
    match Decimal.readInt64? text with
    | some value => .int value
    | none =>
        match Decimal.readBinary64? text with
        | some value => .float value
        | none => .text text

/-- The parameter written as a name, an equals sign and a value. -/
def readParam (argument : String) : Except ParamFault (String × Scalar) :=
  match Text.splitOnce? '=' argument with
  | some (name, value) => .ok (Text.dropLeading ':' name, readScalar value)
  | none => .error ⟨argument⟩

/-- A command. -/
inductive Verb where
  /-- Print the rows of a query. -/
  | query (asJson : Bool)
  /-- Print the number of rows that a statement affects. -/
  | exec
  deriving DecidableEq, Repr

/-- What the user wants to be done. -/
structure Request where
  /-- A file of connection settings. -/
  config? : Option String
  /-- Connection settings themselves. -/
  connection? : Option String
  /-- Seconds between attempts to connect again; without them a lost connection is reported. -/
  reconnect? : Option Nat
  verbose : Bool
  verb : Verb
  sql : String
  params : Params
  deriving DecidableEq, Repr

/-! ## Options before the command -/

/-- An option before the command. -/
inductive OuterOption where
  | config
  | connection
  | reconnect
  | verbose
  | help
  | version
  deriving DecidableEq, Repr

/-- The options before the command. -/
structure Outer where
  config? : Option String := none
  connection? : Option String := none
  reconnect? : Option Nat := none
  verbose : Bool := false
  deriving DecidableEq, Repr

namespace Outer

def isEmpty (outer : Outer) : Bool :=
  outer == {}

/-- The number of seconds of a text, when it fits 64 bits. -/
def readSeconds? (text : String) : Option Nat :=
  match text.toList with
  | '-' :: _ => none
  | _ =>
      (Decimal.readInt? text).bind fun value =>
        if value < UInt64.size then some value.toNat else none

/-- A value given once. -/
def once {α : Type} (earlier : Option α) (value? : Option String) : Except UsageError String :=
  match value?, earlier with
  | none, _ => .error .missingValue
  | some _, some _ => .error .conflict
  | some value, none => .ok value

/-- An option put among the options. -/
def apply (option : OuterOption) (value? : Option String) (outer : Outer) :
    Except UsageError Outer :=
  match option with
  | .config => do
      let value ← once outer.config? value?
      if value = "" then .error .missingValue else .ok { outer with config? := some value }
  | .connection => do .ok { outer with connection? := some (← once outer.connection? value?) }
  | .reconnect => do
      match readSeconds? (← once outer.reconnect? value?) with
      | some seconds => .ok { outer with reconnect? := some seconds }
      | none => .error .badValue
  | .verbose => if outer.verbose then .error .conflict else .ok { outer with verbose := true }
  | .help => .error .helpWanted
  | .version => .error .versionWanted

/-- The grammar of the arguments before the command. -/
def grammar : Grammar OuterOption Outer where
  options :=
    [⟨.config, "config", some 'c', true⟩, ⟨.connection, "connection", none, true⟩,
      ⟨.reconnect, "reconnect", none, true⟩, ⟨.verbose, "verbose", some 'v', false⟩,
      ⟨.help, "help", some 'h', false⟩, ⟨.version, "version", some 'V', false⟩]
  commands := ["query", "exec", "help"]
  apply := apply
  positional? := fun _ _ => none

end Outer

/-! ## Arguments of a command -/

/-- An option of a command. -/
inductive InnerOption where
  | param
  | json
  | help
  deriving DecidableEq, Repr

/-- The arguments of a command. -/
structure Inner where
  sql? : Option String := none
  params : List (String × Scalar) := []
  asJson : Bool := false
  deriving DecidableEq, Repr

namespace Inner

/-- An option put among the arguments. -/
def apply (option : InnerOption) (value? : Option String) (inner : Inner) :
    Except UsageError Inner :=
  match option with
  | .param =>
      match value? with
      | none => .error .missingValue
      | some value =>
          match readParam value with
          | .ok param => .ok { inner with params := inner.params ++ [param] }
          | .error _ => .error .badValue
  | .json => if inner.asJson then .error .conflict else .ok { inner with asJson := true }
  | .help => .error .helpWanted

/-- The grammar of the arguments of a command; only a query prints JSON. -/
def grammar (isQuery : Bool) : Grammar InnerOption Inner where
  options :=
    [⟨.param, "param", some 'p', true⟩, ⟨.help, "help", some 'h', false⟩] ++
      if isQuery then [⟨.json, "json", none, false⟩] else []
  commands := []
  apply := apply
  positional? := fun text inner =>
    if inner.sql?.isNone then some { inner with sql? := some text } else none

/-- The arguments of a command, all read. -/
def parse (isQuery : Bool) (arguments : List String) : Except UsageError (String × Inner) := do
  let (progress, _) ← (grammar isQuery).read false ⟨{}, none, false⟩ arguments
  let inner ← (grammar isQuery).settle progress
  match inner.sql? with
  | some sql => .ok (sql, inner)
  | none => .error .missingArgument

end Inner

/-- The answer to a wish for help about commands. -/
def helpAbout : List String → UsageError
  | [] => .helpWanted
  | [command] =>
      if command = "query" ∨ command = "exec" ∨ command = "help" then .helpWanted
      else .unknownCommand
  | _ => .unknownCommand

/-- The request of all arguments. The command's own arguments are judged first, then the options
before it. -/
def parse (arguments : List String) : Except UsageError Request := do
  let (progress, command?) ← Outer.grammar.read false ⟨{}, none, false⟩ arguments
  match command? with
  | none => do
      let outer ← Outer.grammar.settle progress
      if outer.isEmpty then .error .nothingGiven else .error .missingCommand
  | some (command, rest) => do
      if command = "help" then throw (helpAbout rest)
      let isQuery := command == "query"
      let (sql, inner) ← Inner.parse isQuery rest
      let outer ← Outer.grammar.settle progress
      if outer.config?.isSome ∧ outer.connection?.isSome then .error .conflict
      else
        .ok { config? := outer.config?
              connection? := outer.connection?
              reconnect? := outer.reconnect?
              verbose := outer.verbose
              verb := if isQuery then .query inner.asJson else .exec
              sql
              params := .ofNamed inner.params }

end CommandLine

end SqlClient
