import SqlClient.Statement.Error
import SqlClient.Text.Blank

/-!
# Scanners of quoted names

Two cuts of a text that may hold quoted names: into words at the blanks outside quotes, and of a
word into its dotted parts. A quote character opens a quoted section only where a part starts;
inside a section a doubled quote stands for the character itself.
-/

namespace SqlClient

namespace Scanner

/-! ## Words -/

/-- Where a scan for words stands. -/
inductive Place where
  /-- Outside quotes, and whether the character before closed a section. -/
  | outside (closed : Bool)
  | inside
  deriving DecidableEq, Repr

/-- A character outside quotes opens a section: at the start of a word, after a point, or as the
second half of a doubled quote. The word so far is given backwards. -/
def opens (quote : Char) (closed : Bool) (word : List Char) (char : Char) : Bool :=
  char == quote && (word.isEmpty || word.head? == some '.' || closed)

/-- A word given backwards put before further words, unless it is empty. -/
def finishWord (word : List Char) (words : List (List Char)) : List (List Char) :=
  if word.isEmpty then words else word.reverse :: words

/-- The words from a place on, with the word so far given backwards; nothing when a section does
not end. -/
def wordsFrom (quote : Char) : Place → List Char → List Char → Option (List (List Char))
  | .inside, _, [] => none
  | .outside _, word, [] => some (finishWord word [])
  | .inside, word, char :: rest =>
      wordsFrom quote (if char = quote then .outside true else .inside) (char :: word) rest
  | .outside closed, word, char :: rest =>
      if opens quote closed word char then wordsFrom quote .inside (char :: word) rest
      else if Text.isBlank char then
        (wordsFrom quote (.outside false) [] rest).map (finishWord word)
      else wordsFrom quote (.outside false) (char :: word) rest

/-- The words of a text; nothing when a quoted section does not end. -/
def words? (quote : Char) (chars : List Char) : Option (List (List Char)) :=
  wordsFrom quote (.outside false) [] chars

/-- The words of a text. -/
def words (quote : Char) (text : String) : Except InvalidInput (List String) :=
  match words? quote text.toList with
  | some found => .ok (found.map String.ofList)
  | none => .error (.unterminatedQuote text)

/-! ## Parts -/

/-- What is wrong with a dotted name. -/
inductive PartFault where
  | unterminated
  /-- A part has no character. -/
  | empty
  /-- A character follows a quoted part that is no point. -/
  | stray (char : Char)
  deriving DecidableEq, Repr

/-- The content of a quoted section after its opening quote, and what follows its closing quote. -/
def section? (quote : Char) : List Char → Option (List Char × List Char)
  | [] => none
  | [char] => if char = quote then some ([], []) else none
  | char :: next :: rest =>
      if char = quote then
        if next = quote then
          (section? quote rest).map fun found => (quote :: found.1, found.2)
        else some ([], next :: rest)
      else (section? quote (next :: rest)).map fun found => (char :: found.1, found.2)

theorem section?_length {quote : Char} {chars content rest : List Char}
    (found : section? quote chars = some (content, rest)) : rest.length < chars.length := by
  fun_induction section? quote chars generalizing content rest with
  | case1 => simp at found
  | case2 => simp_all
  | case3 => simp at found
  | case4 tail ih =>
    cases inner : section? quote tail with
    | none => simp [inner] at found
    | some pair =>
      have := ih inner
      simp only [inner, Option.map_some, Option.some.injEq, Prod.mk.injEq] at found
      simp only [List.length_cons, ← found.2]
      omega
  | case5 next tail =>
    simp only [Option.some.injEq, Prod.mk.injEq] at found
    simp [← found.2]
  | case6 char next tail _ ih =>
    cases inner : section? quote (next :: tail) with
    | none => simp [inner] at found
    | some pair =>
      have := ih inner
      simp only [inner, Option.map_some, Option.some.injEq, Prod.mk.injEq] at found
      simp only [List.length_cons, ← found.2] at *
      omega

/-- The first part of a dotted name and what follows it. -/
def leadingPart (quote : Char) (chars : List Char) : Option (List Char × List Char) :=
  match chars with
  | [] => some ([], [])
  | char :: rest =>
      if char = quote then section? quote rest
      else some (chars.takeWhile (· ≠ '.'), chars.dropWhile (· ≠ '.'))

theorem leadingPart_length {quote : Char} {chars part rest : List Char}
    (found : leadingPart quote chars = some (part, rest)) : rest.length ≤ chars.length := by
  cases chars with
  | nil =>
    simp only [leadingPart, Option.some.injEq, Prod.mk.injEq] at found
    simp [← found.2]
  | cons char tail =>
    simp only [leadingPart] at found
    split at found
    · have := section?_length found
      simp only [List.length_cons]
      omega
    · simp only [Option.some.injEq, Prod.mk.injEq] at found
      rw [← found.2]
      exact (List.dropWhile_suffix _).length_le

/-- The parts of a dotted name, without quotes. -/
def partsOf (quote : Char) (chars : List Char) : Except PartFault (List (List Char)) :=
  match _found : leadingPart quote chars with
  | none => .error .unterminated
  | some ([], _) => .error .empty
  | some (char :: part, []) => .ok [char :: part]
  | some (char :: part, next :: rest) =>
      if next = '.' then (partsOf quote rest).map ((char :: part) :: ·)
      else .error (.stray next)
termination_by chars.length
decreasing_by
  have := leadingPart_length _found
  simp only [List.length_cons] at this
  omega

/-- The cause of a fault in a text. -/
def PartFault.cause (input : String) : PartFault → InvalidInput
  | .unterminated => .unterminatedQuote input
  | .empty => .emptyPart input
  | .stray char => .strayChar char input

/-- The parts of a dotted name, without quotes. -/
def parts (quote : Char) (text : String) : Except InvalidInput (List String) :=
  match partsOf quote text.toList with
  | .ok found => .ok (found.map String.ofList)
  | .error fault => .error (fault.cause text)

end Scanner

end SqlClient
