import SqlClient.Dialect
import SqlClient.Statement.Operator

/-!
# Errors of statements

The causes for which a statement cannot be built or rendered, and the message of each.
-/

namespace SqlClient

/-- Text that cannot be accepted as a part of a statement. -/
inductive InvalidInput where
  /-- A name of blanks only. -/
  | emptyName
  /-- A name without parts, or with an empty part. -/
  | emptyParts
  | unterminatedQuote (input : String)
  /-- A dotted name with nothing between two points or quotes. -/
  | emptyPart (input : String)
  /-- A character after a quoted part that is no point. -/
  | strayChar (char : Char) (input : String)
  /-- A table reference that is more than a name and an alias. -/
  | tableReference (text : String)
  /-- An alias of more than one part. -/
  | compoundAlias (text : String)
  /-- Text that is no rendered identifier. -/
  | unparsable (sql : String)
  /-- An ordering term of blanks only. -/
  | emptyOrdering
  /-- A list of values without a value. -/
  | emptyList (column : String)
  /-- A column given twice in a column list. -/
  | repeatedColumn (column : String)
  /-- A column given twice in the first value set. -/
  | repeatedValue (column : String)
  /-- A parameter without a name. -/
  | emptyParameter
  /-- A parameter bound to values that do not agree. -/
  | conflictingParameter (name : String)
  deriving DecidableEq, Repr

def InvalidInput.detail : InvalidInput → String
  | .emptyName => "identifier name must not be empty"
  | .emptyParts => "identifier parts must not be empty"
  | .unterminatedQuote input => "unterminated quoted identifier: " ++ input
  | .emptyPart input => "empty identifier part in: " ++ input
  | .strayChar char input =>
      "unexpected '" ++ String.singleton char ++ "' in identifier: " ++ input
  | .tableReference text => "invalid table reference: " ++ text
  | .compoundAlias text => "invalid alias: " ++ text
  | .unparsable sql => "cannot parse identifier: " ++ sql
  | .emptyOrdering => "ordering term must not be empty"
  | .emptyList column => "empty value list for " ++ column
  | .repeatedColumn column => "duplicate column in column list: " ++ column
  | .repeatedValue column => "duplicate column in value set: " ++ column
  | .emptyParameter => "parameter name must not be empty"
  | .conflictingParameter name => "parameter :" ++ name ++ " is bound to different values"

/-- A part that a statement cannot do without. -/
inductive MissingPart where
  /-- A source of a selection. -/
  | selectSource
  | table
  /-- The tables of a deletion. -/
  | deleteSource
  /-- The entries of a value set. -/
  | valueSet
  /-- Values or parameters of an insertion. -/
  | insertValues
  /-- Assignments of an update. -/
  | assignments
  deriving DecidableEq, Repr

def MissingPart.detail : MissingPart → String
  | .selectSource => "no source set by from()"
  | .table => "no table set"
  | .deleteSource => "no table set by from()"
  | .valueSet => "empty value set"
  | .insertValues => "no values or bind parameters set"
  | .assignments => "no columns set"

/-- Value sets that do not share their columns. -/
inductive UnevenValues where
  /-- A column list that is no reordering of the columns of the value sets. -/
  | columnList
  /-- The value set of a position, counted from zero. -/
  | valueSet (index : Nat)
  deriving DecidableEq, Repr

def UnevenValues.detail : UnevenValues → String
  | .columnList => "column list does not match the existing value sets"
  | .valueSet index =>
      "value set #" ++ toString (index + 1) ++ " does not match the column list"

/-- A statement of one dialect met where another is needed. -/
inductive ForeignStatement where
  /-- A sub-select inside another statement. -/
  | subquery (built used : Dialect)
  /-- A statement run on a session. -/
  | statement (built used : Dialect)
  deriving DecidableEq, Repr

def ForeignStatement.detail : ForeignStatement → String
  | .subquery built used =>
      "subquery built for " ++ built.name ++ " used in a " ++ used.name ++ " statement"
  | .statement built used =>
      "statement built for " ++ built.name ++ " executed on " ++ used.name

/-- A statement that changes rows in place. -/
inductive WriteVerb where
  | update
  | delete
  deriving DecidableEq, Repr

/-- The keyword of a write statement. -/
def WriteVerb.sql : WriteVerb → String
  | .update => "UPDATE"
  | .delete => "DELETE"

/-- Syntax that some dialects lack. -/
inductive Feature where
  | sharedLock
  | returning
  | conflictConstraint
  | writeJoin (verb : WriteVerb)
  | writeOrder (verb : WriteVerb)
  | writeLimit (verb : WriteVerb)
  deriving DecidableEq, Repr

def Feature.name : Feature → String
  | .sharedLock => "shared lock"
  | .returning => "RETURNING"
  | .conflictConstraint => "ON CONFLICT ON CONSTRAINT"
  | .writeJoin verb => verb.sql ++ " with JOIN"
  | .writeOrder verb => verb.sql ++ " with ORDER BY"
  | .writeLimit verb => verb.sql ++ " with LIMIT"

/-- Why a statement cannot be built or rendered. -/
inductive StatementError where
  /-- Text that is not acceptable. -/
  | invalid (cause : InvalidInput)
  /-- A part that is not there. -/
  | missing (part : MissingPart)
  /-- An upsert without the target that its dialect wants. -/
  | missingConflictTarget (dialect : Dialect)
  /-- Value sets of different columns. -/
  | uneven (cause : UnevenValues)
  /-- A statement of another dialect. -/
  | foreign (cause : ForeignStatement)
  /-- Syntax that the dialect lacks. -/
  | unsupported (feature : Feature) (dialect : Dialect)
  /-- A comparison with the absent value that has no meaning. -/
  | nullComparison (column : String) (operator : Operator)
  /-- An upsert of several value sets that does not say what to update. -/
  | ambiguousUpsert
  deriving DecidableEq, Repr

def StatementError.message : StatementError → String
  | .invalid cause => "invalid identifier: " ++ cause.detail
  | .missing part => "configuration error (missing required state): " ++ part.detail
  | .missingConflictTarget dialect =>
      "configuration error (missing conflict target): " ++ dialect.name ++
        " requires a conflict target for upserts"
  | .uneven cause => "configuration error (heterogeneous value sets): " ++ cause.detail
  | .foreign cause => "configuration error (dialect mismatch): " ++ cause.detail
  | .unsupported feature dialect =>
      feature.name ++ " is not supported by the " ++ dialect.name ++ " dialect"
  | .nullComparison column operator =>
      "unsupported operation: cannot compare " ++ column ++ " " ++ operator.sql ++ " NULL"
  | .ambiguousUpsert =>
      "unsupported operation: upsert with multiple value sets needs explicit update values"

end SqlClient
