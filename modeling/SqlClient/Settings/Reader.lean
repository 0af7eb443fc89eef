import SqlClient.Json.Reader
import SqlClient.Settings.Basic

/-!
# Reading settings

Settings are the members of a JSON object. Four fields have a meaning of their own, two of them
under a second name; all other members are parameters. A value of the wrong shape is refused where
it stands, before the text after it is read.
-/

namespace SqlClient

namespace Settings

/-- Settings while their object is read: a field is there once it was met. -/
structure Draft where
  driver? : Option String := none
  /-- The user, which may be null. -/
  user? : Option (Option String) := none
  /-- The password, which may be null. -/
  password? : Option (Option String) := none
  options? : Option (Dictionary String) := none
  /-- The other members. -/
  params : Dictionary String := []

/-- A member of the object that has a meaning of its own. -/
inductive Field where
  | driver
  | user
  | password
  | options
  deriving DecidableEq, Repr

/-- The field of a key, which may go by a second name. -/
def Field.ofKey? (key : String) : Option Field :=
  if key = "driver" then some .driver
  else if key = "user" ∨ key = "username" then some .user
  else if key = "password" ∨ key = "auth" then some .password
  else if key = "options" then some .options
  else none

/-- The field was met before. -/
def Draft.has (draft : Draft) : Field → Bool
  | .driver => draft.driver?.isSome
  | .user => draft.user?.isSome
  | .password => draft.password?.isSome
  | .options => draft.options?.isSome

/-- A value as text: strings as they are, all else as JSON. -/
def valueText : Json → String
  | .string text => text
  | json => json.render

/-- A value that holds no other value; a container is of the wrong shape at its bracket. -/
def plainValue (chars : List Char) : Except Json.Fault (Json × List Char) :=
  match chars with
  | '[' :: _ => .error .mismatched
  | '{' :: _ => .error .mismatched
  | chars => Json.atom chars

def stringValue (chars : List Char) : Except Json.Fault (String × List Char) := do
  match ← plainValue chars with
  | (.string text, rest) => .ok (text, rest)
  | _ => .error .mismatched

/-- A string or null. -/
def optionalValue (chars : List Char) : Except Json.Fault (Option String × List Char) := do
  match ← plainValue chars with
  | (.string text, rest) => .ok (some text, rest)
  | (.null, rest) => .ok (none, rest)
  | _ => .error .mismatched

/-- An object of values taken as texts. Two container levels are open inside it. -/
def dictionaryValue (chars : List Char) : Except Json.Fault (Dictionary String × List Char) :=
  match chars with
  | '{' :: rest =>
      (Json.foldContainer (Json.objectMember (Json.value (Json.maxLevels - 2))) '}' [] rest).map
        fun read => (read.1.map fun entry => (entry.1, valueText entry.2), read.2)
  | '[' :: _ => .error .mismatched
  | chars => do
      let _ ← Json.atom chars
      .error .mismatched

/-- The value of a field put into the draft. -/
def fieldValue (draft : Draft) (field : Field) (chars : List Char) :
    Except Json.Fault (Draft × List Char) :=
  match field with
  | .driver => (stringValue chars).map fun read => ({ draft with driver? := some read.1 }, read.2)
  | .user => (optionalValue chars).map fun read => ({ draft with user? := some read.1 }, read.2)
  | .password =>
      (optionalValue chars).map fun read => ({ draft with password? := some read.1 }, read.2)
  | .options =>
      (dictionaryValue chars).map fun read => ({ draft with options? := some read.1 }, read.2)

/-- A member of the object put into the draft. A field met twice is refused at its key. -/
def member (draft : Draft) (chars : List Char) : Except Json.Fault (Draft × List Char) := do
  let (key, rest) ← Json.keyText chars
  match Field.ofKey? key with
  | some field =>
      if draft.has field then .error .mismatched
      else
        let rest ← Json.afterColon rest
        fieldValue draft field rest
  | none => do
      let rest ← Json.afterColon rest
      let (json, rest) ← (Json.value (Json.maxLevels - 1)).run rest
      .ok ({ draft with params := draft.params.insert key (valueText json) }, rest)

theorem plainValue_length {chars rest : List Char} {json : Json}
    (read : plainValue chars = .ok (json, rest)) : rest.length < chars.length := by
  unfold plainValue at read
  split at read
  · cases read
  · cases read
  · exact Json.atom_length read

theorem stringValue_length {chars rest : List Char} {text : String}
    (read : stringValue chars = .ok (text, rest)) : rest.length < chars.length := by
  obtain ⟨⟨json, last⟩, plain, read⟩ := bind_eq_ok.1 read
  cases json <;> cases read
  exact plainValue_length plain

theorem optionalValue_length {chars rest : List Char} {text? : Option String}
    (read : optionalValue chars = .ok (text?, rest)) : rest.length < chars.length := by
  obtain ⟨⟨json, last⟩, plain, read⟩ := bind_eq_ok.1 read
  cases json <;> cases read <;> exact plainValue_length plain

theorem dictionaryValue_length {chars rest : List Char} {entries : Dictionary String}
    (read : dictionaryValue chars = .ok (entries, rest)) : rest.length < chars.length := by
  unfold dictionaryValue at read
  split at read
  · obtain ⟨⟨members, last⟩, inside, read⟩ := map_eq_ok.1 read
    cases read
    exact Nat.lt_succ_of_lt (Json.foldContainer_length inside)
  · cases read
  · obtain ⟨json, _, read⟩ := bind_eq_ok.1 read
    cases read

theorem fieldValue_length {draft final : Draft} {field : Field} {chars rest : List Char}
    (read : fieldValue draft field chars = .ok (final, rest)) : rest.length < chars.length := by
  cases field with
  | driver =>
    obtain ⟨⟨text, last⟩, inner, read⟩ := map_eq_ok.1 read
    cases read
    exact stringValue_length inner
  | user =>
    obtain ⟨⟨text?, last⟩, inner, read⟩ := map_eq_ok.1 read
    cases read
    exact optionalValue_length inner
  | password =>
    obtain ⟨⟨text?, last⟩, inner, read⟩ := map_eq_ok.1 read
    cases read
    exact optionalValue_length inner
  | options =>
    obtain ⟨⟨entries, last⟩, inner, read⟩ := map_eq_ok.1 read
    cases read
    exact dictionaryValue_length inner

theorem member_length {draft final : Draft} {chars rest : List Char}
    (read : member draft chars = .ok (final, rest)) : rest.length < chars.length := by
  obtain ⟨⟨key, behind⟩, quoted, read⟩ := bind_eq_ok.1 read
  have keyLength := Json.keyText_length quoted
  dsimp only at read
  split at read
  · split at read
    · cases read
    · obtain ⟨start, colon, read⟩ := bind_eq_ok.1 read
      exact Nat.lt_trans (fieldValue_length read)
        (Nat.lt_trans (Json.afterColon_length colon) keyLength)
  · obtain ⟨start, colon, read⟩ := bind_eq_ok.1 read
    obtain ⟨⟨json, last⟩, inner, read⟩ := bind_eq_ok.1 read
    cases read
    exact Nat.lt_trans ((Json.value _).shortens inner)
      (Nat.lt_trans (Json.afterColon_length colon) keyLength)

def memberScanner (draft : Draft) : Json.Scanner Draft :=
  ⟨member draft, member_length⟩

/-- The settings of a finished draft. -/
def ofDraft (draft : Draft) : Settings where
  driver := draft.driver?.getD "mysql"
  user? := draft.user?.join
  password? := draft.password?.join
  options := draft.options?.getD []
  params := draft.params

/-- The draft of an object. -/
def readObject (chars : List Char) : Except Json.Fault (Draft × List Char) :=
  match chars with
  | '{' :: rest => Json.foldContainer memberScanner '}' {} rest
  | '[' :: _ => .error .mismatched
  | chars => do
      let _ ← Json.atom chars
      .error .mismatched

/-- The settings written by a JSON object. -/
def parse (text : String) : Except SettingsError Settings :=
  Except.mapError SettingsError.malformed do
    let (draft, rest) ← readObject (Json.skipSpace text.toList)
    Json.finish rest
    .ok (ofDraft draft)

/-- The settings written in a file, given its bytes. -/
def ofFile (path : String) (content : Except FileFault ByteArray) :
    Except SettingsError Settings :=
  match content with
  | .error fault => .error (.unreadable path fault)
  | .ok bytes =>
      match String.fromUTF8? bytes with
      | some text => parse text
      | none => .error (.unreadable path .notText)

end Settings

end SqlClient
