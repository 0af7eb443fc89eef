import SqlClient.Text.Blank
import SqlClient.Text.Case
import SqlClient.Text.Hex

/-!
# Dialects

The SQL dialects and everything in which their syntax differs: quoting of names, literals,
placeholders, locking, upserts and the limits of write statements. Statements consult a dialect
only when they are rendered.
-/

namespace SqlClient

/-- A dialect of SQL. -/
inductive Dialect where
  /-- MySQL and MariaDB. -/
  | mysql
  | postgres
  | sqlite
  deriving DecidableEq, Repr

/-- How an insertion that updates conflicting rows is spelled. -/
inductive UpsertForm where
  /-- A clause on duplicate keys. -/
  | onDuplicateKey
  /-- A clause on conflicts, whose target may be obligatory. -/
  | onConflict (requiresTarget : Bool)
  deriving DecidableEq, Repr

/-- How an insertion that skips conflicting rows is spelled. -/
inductive IgnoreForm where
  /-- An opening in place of the plain one. -/
  | opening (text : String)
  /-- A clause after the values. -/
  | clause (text : String)
  deriving DecidableEq, Repr

namespace Dialect

def all : List Dialect := [.mysql, .postgres, .sqlite]

/-- The dialect of a configured driver name, in any case and with blanks around it. -/
def ofDriverName? (name : String) : Option Dialect :=
  let known := Text.toLower (Text.trim name)
  if known = "mysql" ∨ known = "mariadb" then some .mysql
  else if known = "pgsql" ∨ known = "postgres" ∨ known = "postgresql" then some .postgres
  else if known = "sqlite" ∨ known = "sqlite3" then some .sqlite
  else none

/-- The driver name of a dialect. -/
def name : Dialect → String
  | .mysql => "mysql"
  | .postgres => "pgsql"
  | .sqlite => "sqlite"

/-- The character around quoted names. -/
def quote : Dialect → Char
  | .mysql => '\x60'
  | .postgres => '"'
  | .sqlite => '"'

/-- Write statements may return rows. -/
def hasReturning : Dialect → Bool
  | .mysql => false
  | .postgres => true
  | .sqlite => true

/-- The clause that locks read rows against writers. -/
def sharedLock? : Dialect → Option String
  | .mysql => some "LOCK IN SHARE MODE"
  | .postgres => some "FOR SHARE"
  | .sqlite => none

/-- A table can be emptied by a statement of its own. -/
def hasTruncate : Dialect → Bool
  | .mysql => true
  | .postgres => true
  | .sqlite => false

/-- Several tables can be emptied by one statement. -/
def truncatesMany : Dialect → Bool
  | .mysql => false
  | .postgres => true
  | .sqlite => false

/-- The spelling of upserts. -/
def upsertForm : Dialect → UpsertForm
  | .mysql => .onDuplicateKey
  | .postgres => .onConflict true
  | .sqlite => .onConflict false

/-- The opening of an insertion that replaces conflicting rows. -/
def replaceOpening? : Dialect → Option String
  | .mysql => some "REPLACE INTO"
  | .postgres => none
  | .sqlite => some "INSERT OR REPLACE INTO"

/-- The spelling of insertions that skip conflicting rows. -/
def ignoreForm : Dialect → IgnoreForm
  | .mysql => .opening "INSERT IGNORE INTO"
  | .postgres => .clause "ON CONFLICT DO NOTHING"
  | .sqlite => .opening "INSERT OR IGNORE INTO"

/-- Updates and deletions may be joined, ordered and limited. -/
def hasWriteClauses : Dialect → Bool
  | .mysql => true
  | .postgres => false
  | .sqlite => false

def beginText : Dialect → String
  | .mysql => "START TRANSACTION"
  | .postgres => "BEGIN"
  | .sqlite => "BEGIN"

/-- The placeholder of a positional value, counted from one. -/
def placeholder (dialect : Dialect) (position : Nat) : String :=
  match dialect with
  | .postgres => "$" ++ toString position
  | .mysql => "?"
  | .sqlite => "?"

/-- Characters with every copy of one of them doubled. -/
def doubleChar (doubled : Char) (chars : List Char) : List Char :=
  chars.flatMap fun char => if char = doubled then [doubled, doubled] else [char]

/-- A name between quotes, the quotes inside it doubled; the star stands for itself. -/
def quoteName (dialect : Dialect) (name : String) : String :=
  if name = "*" then "*"
  else String.ofList (dialect.quote :: doubleChar dialect.quote name.toList ++ [dialect.quote])

/-- Quoted names with points between them. -/
def quotePath (dialect : Dialect) (names : List String) : String :=
  ".".intercalate (names.map dialect.quoteName)

/-- The characters that stand for one character inside a string literal with backslash escapes. -/
def backslashEscape (char : Char) : List Char :=
  match char with
  | '\x00' => ['\\', '0']
  | '\n' => ['\\', 'n']
  | '\r' => ['\\', 'r']
  | '\\' => ['\\', '\\']
  | '\'' => ['\\', '\'']
  | '"' => ['\\', '"']
  | '\x1a' => ['\\', 'Z']
  | char => [char]

/-- The characters between the quotes of a string literal. -/
def escapeChars (dialect : Dialect) (chars : List Char) : List Char :=
  match dialect with
  | .mysql => chars.flatMap backslashEscape
  | .postgres => doubleChar '\'' chars
  | .sqlite => doubleChar '\'' chars

/-- The text between the quotes of a string literal. -/
def escapeText (dialect : Dialect) (text : String) : String :=
  String.ofList (dialect.escapeChars text.toList)

def textLiteral (dialect : Dialect) (text : String) : String :=
  "'" ++ dialect.escapeText text ++ "'"

def boolLiteral (dialect : Dialect) (value : Bool) : String :=
  match dialect, value with
  | .postgres, true => "TRUE"
  | .postgres, false => "FALSE"
  | .mysql, true => "1"
  | .mysql, false => "0"
  | .sqlite, true => "1"
  | .sqlite, false => "0"

def blobLiteral (dialect : Dialect) (bytes : List UInt8) : String :=
  let digits := String.ofList (Text.hexChars bytes)
  match dialect with
  | .postgres => "'\\x" ++ digits ++ "'::bytea"
  | .mysql => "X'" ++ digits ++ "'"
  | .sqlite => "X'" ++ digits ++ "'"

end Dialect

end SqlClient
