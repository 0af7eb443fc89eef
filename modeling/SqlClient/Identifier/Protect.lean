import SqlClient.Identifier.Basic
import SqlClient.Identifier.Scanner
import SqlClient.Text.Case

/-!
# Protected names

Reading of names as users write them: dotted, perhaps quoted already, perhaps with an alias behind
a blank or the word AS. What is no plain name is kept as an expression, except where a table is
wanted.
-/

namespace SqlClient

namespace Identifier

/-- Text that holds an opening parenthesis is an expression. -/
def isExpression (text : String) : Bool :=
  text.toList.contains '('

/-- A name and its alias, if words have the form of a plain reference. -/
def plainWords? : List String → Option (String × Option String)
  | [base] => some (base, none)
  | [base, label] => some (base, some label)
  | [base, keyword, label] =>
      if Text.sameIgnoringCase keyword "AS" then some (base, some label) else none
  | _ => none

/-- The reference of a dotted name and the text of an alias, which must have one part. -/
def ofTexts (quote : Char) (base : String) (label? : Option String) :
    Except InvalidInput Identifier := do
  let identifier ← ofParts (← Scanner.parts quote base)
  match label? with
  | none => .ok identifier
  | some label =>
      match ← Scanner.parts quote label with
      | [part] => .ok (identifier.withAlias part)
      | _ => .error (.compoundAlias label)

/-- The reference that a rendered text stands for. -/
def parse (dialect : Dialect) (sql : String) : Except InvalidInput Identifier := do
  match ← Scanner.words dialect.quote sql with
  | [base] => ofTexts dialect.quote base none
  | [base, keyword, label] =>
      if Text.sameIgnoringCase keyword "AS" then ofTexts dialect.quote base (some label)
      else .error (.unparsable sql)
  | _ => .error (.unparsable sql)

/-- An alias without the blanks around it; a blank alias is none. -/
def givenAlias? (label? : Option String) : Option String :=
  (label?.map Text.trim).filter (· ≠ "")

/-- The reference written by a name and an explicit alias, which wins over an alias in the name.
As a source, only a plain name is accepted. -/
def protect (dialect : Dialect) (name : String) (label? : Option String) (asSource : Bool) :
    Except InvalidInput Identifier :=
  let trimmed := Text.trim name
  if trimmed = "" then .error .emptyName
  else if isExpression trimmed then .ok ((raw trimmed).withAlias ((givenAlias? label?).getD ""))
  else do
    match plainWords? (← Scanner.words dialect.quote trimmed) with
    | some (base, inline?) => ofTexts dialect.quote base ((givenAlias? label?).or inline?)
    | none => if asSource then .error (.tableReference trimmed) else .ok (raw trimmed)

/-- The text of a column or an expression, protected. -/
def protectedText (dialect : Dialect) (name : String) : Except InvalidInput String :=
  (protect dialect name none false).map (render dialect)

/-- The direction of an ordering term. -/
def direction? (word : String) : Option String :=
  if Text.sameIgnoringCase word "ASC" ∨ Text.sameIgnoringCase word "DESC" then
    some (Text.toUpper word)
  else none

/-- The text of an ordering or grouping term: a name with an optional direction. Anything else is
kept as it is. -/
def protectOrdering (dialect : Dialect) (term : String) : Except InvalidInput String :=
  let trimmed := Text.trim term
  if trimmed = "" then .error .emptyOrdering
  else if isExpression trimmed then .ok trimmed
  else do
    match ← Scanner.words dialect.quote trimmed with
    | [column] => protectedText dialect column
    | [column, word] =>
        match direction? word with
        | some direction => do .ok ((← protectedText dialect column) ++ " " ++ direction)
        | none => .ok trimmed
    | _ => .ok trimmed

end Identifier

end SqlClient
