import SqlClient.Statement.Binds

/-!
# Placeholders

A text is cut into pieces: named placeholders, positional placeholders and everything between them.
Quoted sections, comments and casts are never placeholders. Binding replaces the placeholder pieces
by those of the dialect and lines up the values; all other pieces stay as they are.
-/

namespace SqlClient

/-- A named placeholder without a value. -/
structure UnboundName where
  /-- The name without its colon. -/
  name : String
  deriving DecidableEq, Repr

/-- A piece of a text. -/
inductive Piece where
  /-- Text that stays as it is. -/
  | fixed (chars : List Char)
  /-- A named placeholder. -/
  | name (chars : List Char)
  /-- A positional placeholder written as a question mark. -/
  | mark
  deriving DecidableEq, Repr

namespace Piece

/-- The text of a piece. -/
def chars : Piece → List Char
  | .fixed chars => chars
  | .name letters => ':' :: letters
  | .mark => ['?']

def isQuote (char : Char) : Bool :=
  char == '\'' || char == '"' || char == '\x60'

/-- A backslash escapes the next character of a quoted section. -/
def hasBackslash (dialect : Dialect) (quote : Char) : Bool :=
  dialect == .mysql && quote != '\x60'

/-- The rest of a quoted section with its closing quote, and what follows. A doubled quote stays
inside the section; a section without an end takes all. -/
def closeQuote (backslash : Bool) (quote : Char) : List Char → List Char × List Char
  | [] => ([], [])
  | [char] => ([char], [])
  | char :: next :: rest =>
      if backslash && char == '\\' || char == quote && next == quote then
        let (inner, after) := closeQuote backslash quote rest
        (char :: next :: inner, after)
      else if char == quote then ([char], next :: rest)
      else
        let (inner, after) := closeQuote backslash quote (next :: rest)
        (char :: inner, after)

/-- The rest of a block comment with its end, and what follows. -/
def closeComment : List Char → List Char × List Char
  | [] => ([], [])
  | [char] => ([char], [])
  | char :: next :: rest =>
      if char == '*' && next == '/' then ([char, next], rest)
      else
        let (inner, after) := closeComment (next :: rest)
        (char :: inner, after)

/-- A character that a placeholder name may begin with. -/
def startsName (char : Char) : Bool :=
  char.isAlpha || char == '_'

/-- A character inside a placeholder name. -/
def continuesName (char : Char) : Bool :=
  char.isAlphanum || char == '_'

/-- The piece that begins with a character, and what follows it. -/
def first (dialect : Dialect) (char : Char) (rest : List Char) : Piece × List Char :=
  if isQuote char then
    let (inner, after) := closeQuote (hasBackslash dialect char) char rest
    (.fixed (char :: inner), after)
  else
    match char, rest with
    | '-', '-' :: _ =>
        (.fixed (char :: rest.takeWhile (· != '\n')), rest.dropWhile (· != '\n'))
    | '/', '*' :: after =>
        let (inner, after) := closeComment after
        (.fixed ('/' :: '*' :: inner), after)
    | ':', ':' :: after => (.fixed [':', ':'], after)
    | ':', next :: _ =>
        if startsName next then (.name (rest.takeWhile continuesName), rest.dropWhile continuesName)
        else (.fixed [char], rest)
    | '?', _ => if dialect = .postgres then (.mark, rest) else (.fixed [char], rest)
    | _, _ => (.fixed [char], rest)

/-- Nothing of a quoted section is lost. -/
theorem closeQuote_append (backslash : Bool) (quote : Char) (chars : List Char) :
    (closeQuote backslash quote chars).1 ++ (closeQuote backslash quote chars).2 = chars := by
  fun_induction closeQuote backslash quote chars <;> simp_all

/-- Nothing of a comment is lost. -/
theorem closeComment_append (chars : List Char) :
    (closeComment chars).1 ++ (closeComment chars).2 = chars := by
  fun_induction closeComment chars <;> simp_all

/-- The first piece and what follows it make up the text. -/
theorem chars_first_append (dialect : Dialect) (char : Char) (rest : List Char) :
    (first dialect char rest).1.chars ++ (first dialect char rest).2 = char :: rest := by
  unfold first
  split
  · simp [chars, closeQuote_append]
  · split
    · simp [chars]
    · simp [chars, closeComment_append]
    · simp [chars]
    · split <;> simp [chars]
    · split <;> simp [chars]
    · simp [chars]

/-- No piece is empty. -/
theorem chars_first_ne_nil (dialect : Dialect) (char : Char) (rest : List Char) :
    (first dialect char rest).1.chars ≠ [] := by
  unfold first
  split
  · simp [chars]
  · split
    · simp [chars]
    · simp [chars]
    · simp [chars]
    · split <;> simp [chars]
    · split <;> simp [chars]
    · simp [chars]

theorem length_first_lt (dialect : Dialect) (char : Char) (rest : List Char) :
    (first dialect char rest).2.length < (char :: rest).length := by
  have whole := congrArg List.length (chars_first_append dialect char rest)
  have positive := List.length_pos_iff.2 (chars_first_ne_nil dialect char rest)
  simp only [List.length_append] at whole
  omega

/-- The pieces of a text. -/
def ofChars (dialect : Dialect) (chars : List Char) : List Piece :=
  match chars with
  | [] => []
  | char :: rest =>
      (first dialect char rest).1 :: ofChars dialect (first dialect char rest).2
termination_by chars.length
decreasing_by exact length_first_lt dialect char rest

/-- The pieces in order make up the text. -/
theorem flatMap_chars_ofChars (dialect : Dialect) (chars : List Char) :
    (ofChars dialect chars).flatMap Piece.chars = chars := by
  fun_induction ofChars dialect chars with
  | case1 => rfl
  | case2 char rest ih => simp [ih, chars_first_append]

end Piece

namespace Params

/-- The last value given for a name. -/
def lastValue? (pairs : List (String × Scalar)) (name : String) : Option Scalar :=
  pairs.reverse.lookup name

/-- The text of pieces in which both kinds of placeholders are numbered from a position on, and the
values of the names in order. -/
def bindNamed (dialect : Dialect) (pairs : List (String × Scalar)) :
    (position : Nat) → List Piece → Except UnboundName (List Char × List Scalar)
  | _, [] => .ok ([], [])
  | position, .fixed chars :: rest => do
      let (text, values) ← bindNamed dialect pairs position rest
      .ok (chars ++ text, values)
  | position, .mark :: rest => do
      let (text, values) ← bindNamed dialect pairs (position + 1) rest
      .ok ((dialect.placeholder position).toList ++ text, values)
  | position, .name letters :: rest =>
      match lastValue? pairs (String.ofList letters) with
      | Option.none => .error ⟨String.ofList letters⟩
      | some value => do
          let (text, values) ← bindNamed dialect pairs (position + 1) rest
          .ok ((dialect.placeholder position).toList ++ text, value :: values)

/-- The text of pieces in which the question marks are numbered from a position on. -/
def numberMarks (dialect : Dialect) : (position : Nat) → List Piece → List Char
  | _, [] => []
  | position, .mark :: rest =>
      (dialect.placeholder position).toList ++ numberMarks dialect (position + 1) rest
  | position, piece :: rest => piece.chars ++ numberMarks dialect position rest

/-- The text to send and the positional values to send with it. -/
def bind (dialect : Dialect) (sql : String) (params : Params) :
    Except UnboundName (String × List Scalar) :=
  match params with
  | .none => .ok (sql, [])
  | .positional values =>
      if dialect = .postgres then
        .ok (String.ofList (numberMarks dialect 1 (Piece.ofChars dialect sql.toList)), values)
      else .ok (sql, values)
  | .named pairs => do
      let (text, values) ← bindNamed dialect pairs 1 (Piece.ofChars dialect sql.toList)
      .ok (String.ofList text, values)

end Params

end SqlClient
