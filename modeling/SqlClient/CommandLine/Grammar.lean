import SqlClient.Text.Split

/-!
# Option grammars

Reading of arguments by a table of options. Long options take their value after an equals sign or
as the next argument, short ones may stand in a cluster. An option that waits for its value is
settled when the next option, positional argument or the end is met.
-/

namespace SqlClient

namespace CommandLine

/-- Why arguments are refused, or answered without being run. -/
inductive UsageError where
  /-- An argument that must be given is not. -/
  | missingArgument
  /-- Two arguments that exclude each other, or an option given twice. -/
  | conflict
  /-- An argument of no meaning. -/
  | unknownArgument
  | badValue
  | missingValue
  /-- A value for an option that takes none. -/
  | extraValue
  /-- A command of no meaning. -/
  | unknownCommand
  | missingCommand
  | nothingGiven
  | helpWanted
  | versionWanted
  deriving DecidableEq, Repr

/-- An option of a grammar. -/
structure OptionSpec (ι : Type) where
  /-- What the option stands for. -/
  id : ι
  /-- The name after two dashes. -/
  long : String
  /-- The letter after one dash. -/
  short? : Option Char
  takesValue : Bool

/-- A grammar of arguments that are read into a state. -/
structure Grammar (ι σ : Type) where
  options : List (OptionSpec ι)
  /-- The words that end the reading: commands with arguments of their own. -/
  commands : List String
  /-- An option with its value put into the state. -/
  apply : ι → Option String → σ → Except UsageError σ
  /-- A positional argument put into the state, if it is wanted. -/
  positional? : String → σ → Option σ

/-- An option seen whose value is not settled. -/
structure Pending (ι : Type) where
  id : ι
  /-- The value, once it is seen. -/
  value? : Option String

/-- Where the reading of arguments stands. -/
structure Progress (ι σ : Type) where
  /-- The settled arguments. -/
  state : σ
  /-- The option not settled yet. -/
  pending? : Option (Pending ι)
  /-- The next argument may be the value of the pending option. -/
  awaiting : Bool

variable {ι σ : Type}

namespace Grammar

/-- The pending option put into the state. -/
def settle (grammar : Grammar ι σ) (progress : Progress ι σ) : Except UsageError σ :=
  match progress.pending? with
  | none => .ok progress.state
  | some pending => grammar.apply pending.id pending.value? progress.state

/-- An option whose value is known, after the pending one. -/
def applyNow (grammar : Grammar ι σ) (progress : Progress ι σ) (id : ι)
    (value? : Option String) : Except UsageError (Progress ι σ) := do
  .ok ⟨← grammar.apply id value? (← grammar.settle progress), none, false⟩

/-- An option that waits for its value, after the pending one. -/
def await (grammar : Grammar ι σ) (progress : Progress ι σ) (id : ι) :
    Except UsageError (Progress ι σ) := do
  .ok ⟨← grammar.settle progress, some ⟨id, none⟩, true⟩

/-- A long option, after its dashes. -/
def readLong (grammar : Grammar ι σ) (progress : Progress ι σ) (text : String) :
    Except UsageError (Progress ι σ) :=
  let (name, value?) :=
    match Text.splitOnce? '=' text with
    | some (name, value) => (name, some value)
    | none => (text, none)
  match grammar.options.find? fun option => option.long = name with
  | none => .error .unknownArgument
  | some option =>
      match option.takesValue, value? with
      | false, some _ => .error .extraValue
      | false, none => grammar.applyNow progress option.id none
      | true, some value => grammar.applyNow progress option.id (some value)
      | true, none => grammar.await progress option.id

/-- A cluster of short options, after its dash. The first option with a value takes the rest. -/
def readShort (grammar : Grammar ι σ) :
    Progress ι σ → List Char → Except UsageError (Progress ι σ)
  | progress, [] => .ok progress
  | progress, letter :: rest =>
      match grammar.options.find? fun option => option.short? = some letter with
      | none => .error .unknownArgument
      | some option =>
          if option.takesValue then
            match rest with
            | [] => grammar.await progress option.id
            | '=' :: value => grammar.applyNow progress option.id (some (String.ofList value))
            | value => grammar.applyNow progress option.id (some (String.ofList value))
          else do readShort grammar (← grammar.applyNow progress option.id none) rest

/-- A positional argument, after the pending option. -/
def readPositional (grammar : Grammar ι σ) (progress : Progress ι σ) (trailing : Bool)
    (text : String) : Except UsageError (Progress ι σ) :=
  match grammar.positional? text progress.state with
  | none =>
      if grammar.commands.isEmpty || trailing && grammar.commands.contains text then
        .error .unknownArgument
      else .error .unknownCommand
  | some _ => do
      let settled ← grammar.settle progress
      match grammar.positional? text settled with
      | some state => .ok ⟨state, none, false⟩
      | none => .error .unknownArgument

/-- Arguments up to a command or the end, and the command with the arguments after it. After two
dashes alone all arguments are positional. -/
def read (grammar : Grammar ι σ) (trailing : Bool) (progress : Progress ι σ) :
    List String → Except UsageError (Progress ι σ × Option (String × List String))
  | [] => .ok (progress, none)
  | argument :: rest =>
      if trailing then do
        read grammar true (← grammar.readPositional progress true argument) rest
      else if !progress.awaiting && grammar.commands.contains argument then
        .ok (progress, some (argument, rest))
      else if argument = "--" then read grammar true progress rest
      else
        match argument.toList with
        | '-' :: '-' :: name => do
            read grammar false (← grammar.readLong progress (String.ofList name)) rest
        | '-' :: letter :: letters => do
            read grammar false (← grammar.readShort progress (letter :: letters)) rest
        | _ =>
            match progress.awaiting, progress.pending? with
            | true, some pending =>
                read grammar false ⟨progress.state, some ⟨pending.id, some argument⟩, false⟩ rest
            | _, _ => do
                read grammar false (← grammar.readPositional progress false argument) rest

end Grammar

end CommandLine

end SqlClient
