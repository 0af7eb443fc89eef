import Mathlib.Data.List.Basic
import SqlClient.Placeholder

/-!
# Positions

A text is cut by positions: a piece begins at one and stops at another, which a search behind the
beginning finds. Searches go past a doubled quote, an escaped character or the end of a comment, and
the text may end there, so positions and slices are checked here. No check fails: every piece stops
behind its beginning and inside the text, and from stop to stop each position is taken once.
-/

namespace SqlClient

namespace Piece

/-! ## Scan -/

/-- A piece with the position of its first character and the position behind its last one. -/
structure Span where
  start : Nat
  stop : Nat
  piece : Piece
  deriving DecidableEq, Repr

/-- The positions of a span in order. -/
def Span.positions (span : Span) : List Nat :=
  List.range' span.start (span.stop - span.start)

/-- The characters between two positions, if these are in order and inside the text. -/
def slice? (chars : List Char) (start stop : Nat) : Option (List Char) :=
  if start ≤ stop ∧ stop ≤ chars.length then some ((chars.drop start).take (stop - start))
  else none

/-- A span of text that stays as it is. -/
def fixed? (chars : List Char) (start stop : Nat) : Option Span :=
  (slice? chars start stop).map fun text => ⟨start, stop, .fixed text⟩

/-- The position behind a quoted section that has been read up to a position. Two characters at
once may lead past the end of the text. -/
def quoteStop (backslash : Bool) (quote : Char) (chars : List Char) (position : Nat) : Nat :=
  if inside : position < chars.length then
    if backslash && chars[position] == '\\' then
      quoteStop backslash quote chars (position + 2)
    else if chars[position] = quote then
      if chars[position + 1]? = some quote then quoteStop backslash quote chars (position + 2)
      else position + 1
    else quoteStop backslash quote chars (position + 1)
  else chars.length
termination_by chars.length - position

/-- The position of the first character from a position on that passes a test, or the end. -/
def stopAt? (test : Char → Bool) (chars : List Char) (start : Nat) : Option Nat := do
  let later ← slice? chars start chars.length
  some ((later.findIdx? test).elim chars.length (start + ·))

/-- The position behind the first end of a comment from a position on, or the end. -/
def commentStop? (chars : List Char) (start : Nat) : Option Nat := do
  let later ← slice? chars start chars.length
  some (((later.zip later.tail).findIdx? (· == ('*', '/'))).elim chars.length (start + · + 2))

/-- The span that begins at a position, if all that is read for it is inside the text. -/
def span? (dialect : Dialect) (chars : List Char) (start : Nat) : Option Span := do
  let char ← chars[start]?
  let next? := chars[start + 1]?
  if isQuote char then
    fixed? chars start (quoteStop (hasBackslash dialect char) char chars (start + 1))
  else if char = '-' ∧ next? = some '-' then
    fixed? chars start (← stopAt? (· == '\n') chars start)
  else if char = '/' ∧ next? = some '*' then
    fixed? chars start (← commentStop? chars (start + 2))
  else if char = ':' ∧ next? = some ':' then some ⟨start, start + 2, .fixed [':', ':']⟩
  else if char = ':' ∧ next?.any startsName then
    let stop ← stopAt? (!continuesName ·) chars (start + 1)
    let letters ← slice? chars (start + 1) stop
    some ⟨start, stop, .name letters⟩
  else if char = '?' ∧ dialect = .postgres then some ⟨start, start + 1, .mark⟩
  else some ⟨start, start + 1, .fixed [char]⟩

/-- The spans from a position to the end of a text, each beginning where the one before it
stops. -/
inductive Walk (dialect : Dialect) (chars : List Char) : Nat → List Span → Prop where
  | done {start : Nat} (ended : chars.length ≤ start) : Walk dialect chars start []
  | step {start : Nat} {span : Span} {spans : List Span} (inside : start < chars.length)
      (here : span? dialect chars start = some span) (later : Walk dialect chars span.stop spans) :
      Walk dialect chars start (span :: spans)

/-! ## Slices -/

theorem slice?_append (before taken after : List Char) :
    slice? (before ++ (taken ++ after)) before.length (before.length + taken.length) =
      some taken := by
  simp [slice?]

theorem slice?_to_end (before later : List Char) :
    slice? (before ++ later) before.length (before ++ later).length = some later := by
  simpa using slice?_append before later []

/-- A position inside a text divides it. -/
theorem exists_eq_append_of_lt {chars : List Char} {start : Nat} (inside : start < chars.length) :
    ∃ before char rest, chars = before ++ char :: rest ∧ start = before.length :=
  ⟨chars.take start, chars[start], chars.drop (start + 1), by simp,
    by rw [List.length_take_of_le (Nat.le_of_lt inside)]⟩

/-! ## Searches -/

theorem getElem?_behind (before : List Char) (char : Char) (rest : List Char) :
    (before ++ char :: rest)[before.length + 1]? = rest.head? := by
  rw [List.getElem?_append_right (Nat.le_add_right _ _)]
  simp [List.head?_eq_getElem?]

theorem quoteStop_of_length_le {backslash : Bool} {quote : Char} {chars : List Char}
    {position : Nat} (ended : chars.length ≤ position) :
    quoteStop backslash quote chars position = chars.length := by
  rw [quoteStop, dif_neg (Nat.not_lt.2 ended)]

theorem quoteStop_append_cons (backslash : Bool) (quote : Char) (before : List Char) (char : Char)
    (rest : List Char) :
    quoteStop backslash quote (before ++ char :: rest) before.length =
      if backslash && char == '\\' then
        quoteStop backslash quote (before ++ char :: rest) (before.length + 2)
      else if char = quote then
        if rest.head? = some quote then
          quoteStop backslash quote (before ++ char :: rest) (before.length + 2)
        else before.length + 1
      else quoteStop backslash quote (before ++ char :: rest) (before.length + 1) := by
  have inside : before.length < (before ++ char :: rest).length := by simp
  have here : (before ++ char :: rest)[before.length] = char := by simp
  rw [quoteStop, dif_pos inside, here, getElem?_behind]

/-- The search for the end of a section stops where the section does. -/
theorem quoteStop_append (backslash : Bool) (quote : Char) (before chars : List Char) :
    quoteStop backslash quote (before ++ chars) before.length =
      before.length + (closeQuote backslash quote chars).1.length := by
  fun_induction closeQuote backslash quote chars generalizing before with
  | case1 => simp [quoteStop_of_length_le]
  | case2 char =>
      -- Nothing follows, so the search ends here whatever the character is.
      simp [quoteStop_append_cons, quoteStop_of_length_le]
  | case3 char next rest paired inner after closed ih =>
      have jump : quoteStop backslash quote (before ++ char :: next :: rest) before.length =
          quoteStop backslash quote (before ++ char :: next :: rest) (before.length + 2) := by
        simp only [Bool.or_eq_true, Bool.and_eq_true, beq_iff_eq] at paired
        obtain ⟨escapes, rfl⟩ | ⟨rfl, rfl⟩ := paired
        · simp [quoteStop_append_cons, escapes]
        · simp [quoteStop_append_cons]
      have later : quoteStop backslash quote (before ++ char :: next :: rest)
          (before.length + 2) = before.length + 2 + inner.length := by
        simpa [closed] using ih (before ++ [char, next])
      rw [jump, later, List.length_cons, List.length_cons]
      omega
  | case4 char next rest unpaired closes =>
      obtain rfl : char = quote := by simpa using closes
      have plain : (backslash && char == '\\') = false ∧ next ≠ char := by
        simpa [not_or] using unpaired
      simp [quoteStop_append_cons, plain]
  | case5 char next rest unpaired other inner after closed ih =>
      have different : char ≠ quote := by simpa using other
      have plain : (backslash && char == '\\') = false := by simpa [different] using unpaired
      have later : quoteStop backslash quote (before ++ char :: next :: rest)
          (before.length + 1) = before.length + 1 + inner.length := by
        simpa [closed] using ih (before ++ [char])
      rw [quoteStop_append_cons, if_neg (by simp [plain]), if_neg different, later,
        List.length_cons]
      omega

theorem quoteStop_behind (backslash : Bool) (quote : Char) (before : List Char) (char : Char)
    (rest : List Char) :
    quoteStop backslash quote (before ++ char :: rest) (before.length + 1) =
      before.length + 1 + (closeQuote backslash quote rest).1.length := by
  simpa using quoteStop_append backslash quote (before ++ [char]) rest

theorem length_closeQuote_le (backslash : Bool) (quote : Char) (chars : List Char) :
    (closeQuote backslash quote chars).1.length ≤ chars.length := by
  nth_rewrite 2 [← closeQuote_append backslash quote chars]
  rw [List.length_append]
  exact Nat.le_add_right _ _

theorem elim_findIdx? (test : Char → Bool) (start : Nat) (chars : List Char) :
    (chars.findIdx? test).elim (start + chars.length) (start + ·) =
      start + (chars.takeWhile (!test ·)).length := by
  induction chars generalizing start with
  | nil => rfl
  | cons char rest ih =>
      rw [List.findIdx?_cons, List.takeWhile_cons]
      by_cases stops : test char = true
      · simp [stops]
      · simpa [stops, Option.elim_map, Function.comp_def, Nat.add_assoc, Nat.add_comm 1] using
          ih (start + 1)

/-- The search for a character stops where the characters before it do. -/
theorem stopAt?_append (test : Char → Bool) (before chars : List Char) :
    stopAt? test (before ++ chars) before.length =
      some (before.length + (chars.takeWhile (!test ·)).length) := by
  rw [stopAt?, slice?_to_end, Option.bind_eq_bind, Option.bind_some, List.length_append,
    elim_findIdx?]

theorem elim_findIdx?_end (start : Nat) (chars : List Char) :
    ((chars.zip chars.tail).findIdx? (· == ('*', '/'))).elim (start + chars.length)
      (start + · + 2) = start + (closeComment chars).1.length := by
  fun_induction closeComment chars generalizing start with
  | case1 => rfl
  | case2 => rfl
  | case3 char next rest closes =>
      obtain ⟨rfl, rfl⟩ : char = '*' ∧ next = '/' := by simpa using closes
      simp [List.findIdx?_cons]
  | case4 char next rest other inner after closed ih =>
      have unended : ((char, next) == ('*', '/')) = false := by simpa using other
      have later := ih (start + 1)
      rw [closed] at later
      simpa [List.findIdx?_cons, unended, Option.elim_map, Function.comp_def, Nat.add_assoc,
        Nat.add_comm 1] using later

/-- The search for the end of a comment stops where the comment does. -/
theorem commentStop?_append (before chars : List Char) :
    commentStop? (before ++ chars) before.length =
      some (before.length + (closeComment chars).1.length) := by
  rw [commentStop?, slice?_to_end, Option.bind_eq_bind, Option.bind_some, List.length_append,
    elim_findIdx?_end]

/-! ## Spans -/

/-- The span of a piece that begins at a position. -/
def spanFrom (start : Nat) (piece : Piece) : Span :=
  ⟨start, start + piece.chars.length, piece⟩

theorem length_first_le (dialect : Dialect) (char : Char) (rest : List Char) :
    (first dialect char rest).1.chars.length ≤ (char :: rest).length := by
  rw [← chars_first_append dialect char rest, List.length_append]
  exact Nat.le_add_right _ _

section Branches

variable {dialect : Dialect} (before : List Char) {char : Char} {rest : List Char}

/-- The first piece is a slice of the text. -/
theorem slice?_first (dialect : Dialect) (char : Char) (rest : List Char) :
    slice? (before ++ char :: rest) before.length
        (spanFrom before.length (first dialect char rest).1).stop =
      some (first dialect char rest).1.chars := by
  nth_rewrite 1 [← chars_first_append dialect char rest]
  exact slice?_append before _ _

theorem fixed?_of_first {taken : List Char} {stop : Nat}
    (piece : (first dialect char rest).1 = .fixed taken)
    (stops : stop = before.length + taken.length) :
    fixed? (before ++ char :: rest) before.length stop =
      some (spanFrom before.length (first dialect char rest).1) := by
  have sliced := slice?_first before dialect char rest
  simp only [spanFrom, piece, chars] at sliced ⊢
  rw [stops, fixed?, sliced, Option.map_some]

theorem fixed?_quote (quoting : isQuote char = true) :
    fixed? (before ++ char :: rest) before.length
        (quoteStop (hasBackslash dialect char) char (before ++ char :: rest)
          (before.length + 1)) =
      some (spanFrom before.length (first dialect char rest).1) := by
  have piece : (first dialect char rest).1 =
      .fixed (char :: (closeQuote (hasBackslash dialect char) char rest).1) := by
    simp [first, quoting]
  apply fixed?_of_first before piece
  rw [quoteStop_behind, List.length_cons, Nat.add_assoc, Nat.add_comm 1]

theorem fixed?_line (dialect : Dialect) (rest : List Char) :
    (stopAt? (· == '\n') (before ++ '-' :: '-' :: rest) before.length).bind
        (fixed? (before ++ '-' :: '-' :: rest) before.length) =
      some (spanFrom before.length (first dialect '-' ('-' :: rest)).1) := by
  rw [stopAt?_append, Option.bind_some]
  exact fixed?_of_first before rfl rfl

theorem fixed?_block (dialect : Dialect) (rest : List Char) :
    (commentStop? (before ++ '/' :: '*' :: rest) (before.length + 2)).bind
        (fixed? (before ++ '/' :: '*' :: rest) before.length) =
      some (spanFrom before.length (first dialect '/' ('*' :: rest)).1) := by
  have stops : commentStop? (before ++ '/' :: '*' :: rest) (before.length + 2) =
      some (before.length + 2 + (closeComment rest).1.length) := by
    simpa using commentStop?_append (before ++ ['/', '*']) rest
  rw [stops, Option.bind_some]
  apply fixed?_of_first before rfl
  simp only [List.length_cons]
  omega

theorem named_of_first (starts : startsName char = true) :
    ((stopAt? (!continuesName ·) (before ++ ':' :: char :: rest) (before.length + 1)).bind
        fun stop => (slice? (before ++ ':' :: char :: rest) (before.length + 1) stop).bind
          fun letters => some ⟨before.length, stop, .name letters⟩) =
      some (spanFrom before.length (first dialect ':' (char :: rest)).1) := by
  have double : char ≠ ':' := by
    rintro rfl
    exact absurd starts (by decide)
  have piece : (first dialect ':' (char :: rest)).1 =
      .name ((char :: rest).takeWhile continuesName) := by
    simp [first, isQuote, starts]
  -- The search and the slice begin behind the colon.
  have stops := stopAt?_append (!continuesName ·) (before ++ [':']) (char :: rest)
  have sliced := slice?_append (before ++ [':']) ((char :: rest).takeWhile continuesName)
    ((char :: rest).dropWhile continuesName)
  rw [List.takeWhile_append_dropWhile] at sliced
  simp only [List.append_assoc, List.singleton_append, List.length_append, List.length_singleton,
    Bool.not_not] at stops sliced
  rw [stops, Option.bind_some, sliced, Option.bind_some, piece, spanFrom, chars, List.length_cons,
    Nat.add_assoc, Nat.add_comm 1]

end Branches

/-- The span that begins with a character is that of the first piece. -/
theorem span?_append (dialect : Dialect) (before : List Char) (char : Char) (rest : List Char) :
    span? dialect (before ++ char :: rest) before.length =
      some (spanFrom before.length (first dialect char rest).1) := by
  have here : (before ++ char :: rest)[before.length]? = some char := by simp
  simp only [span?, here, getElem?_behind, Option.bind_eq_bind, Option.bind_some]
  by_cases quoting : isQuote char = true
  · rw [if_pos quoting]
    exact fixed?_quote before quoting
  rw [if_neg quoting]
  by_cases line : char = '-' ∧ rest.head? = some '-'
  · rw [if_pos line]
    obtain ⟨rfl, second⟩ := line
    obtain ⟨after, rfl⟩ := List.head?_eq_some_iff.1 second
    exact fixed?_line before dialect after
  rw [if_neg line]
  by_cases block : char = '/' ∧ rest.head? = some '*'
  · rw [if_pos block]
    obtain ⟨rfl, second⟩ := block
    obtain ⟨after, rfl⟩ := List.head?_eq_some_iff.1 second
    exact fixed?_block before dialect after
  rw [if_neg block]
  by_cases cast : char = ':' ∧ rest.head? = some ':'
  · rw [if_pos cast]
    obtain ⟨rfl, second⟩ := cast
    obtain ⟨after, rfl⟩ := List.head?_eq_some_iff.1 second
    rfl
  rw [if_neg cast]
  by_cases named : char = ':' ∧ rest.head?.any startsName = true
  · rw [if_pos named]
    obtain ⟨rfl, second⟩ := named
    obtain ⟨letter, begins, starts⟩ := (Option.any_eq_true _ _).1 second
    obtain ⟨after, rfl⟩ := List.head?_eq_some_iff.1 begins
    exact named_of_first before starts
  rw [if_neg named]
  by_cases mark : char = '?' ∧ dialect = .postgres
  · rw [if_pos mark]
    obtain ⟨rfl, rfl⟩ := mark
    rfl
  rw [if_neg mark]
  -- Nothing longer begins here.
  have single : (first dialect char rest).1 = .fixed [char] := by
    unfold first
    rw [if_neg quoting]
    split
    · simp at line
    · simp at block
    · simp at cast
    · next next after double =>
      rw [if_neg (by simpa using named)]
    · rw [if_neg (by simpa using mark)]
    · rfl
  rw [spanFrom, single]
  rfl

example : span? .postgres ['/', '*'] 0 = some ⟨0, 2, .fixed ['/', '*']⟩ := by decide

/-! ## Walks -/

/-- Pieces behind one another from a position on. -/
def layOut : (start : Nat) → List Piece → List Span
  | _, [] => []
  | start, piece :: rest => spanFrom start piece :: layOut (start + piece.chars.length) rest

theorem map_piece_layOut (start : Nat) (pieces : List Piece) :
    (layOut start pieces).map Span.piece = pieces := by
  induction pieces generalizing start with
  | nil => rfl
  | cons piece rest ih => rw [layOut, List.map_cons, ih, spanFrom]

/-- Pieces behind one another take each position once. -/
theorem positions_layOut (start : Nat) (pieces : List Piece) :
    (layOut start pieces).flatMap Span.positions =
      List.range' start (pieces.flatMap Piece.chars).length := by
  induction pieces generalizing start with
  | nil => rfl
  | cons piece rest ih =>
      rw [layOut, List.flatMap_cons, ih, List.flatMap_cons, List.length_append,
        ← List.range'_append_1, Span.positions, spanFrom, Nat.add_sub_cancel_left]

/-- The walk from a position on takes the pieces of the text there. -/
theorem walk_append_iff {dialect : Dialect} (before chars : List Char) (spans : List Span) :
    Walk dialect (before ++ chars) before.length spans ↔
      spans = layOut before.length (ofChars dialect chars) := by
  -- Along the cut: what has been cut off stands in front of the position.
  fun_induction ofChars dialect chars generalizing before spans with
  | case1 =>
      have ended : (before ++ []).length ≤ before.length := by simp
      constructor
      · rintro (_ | ⟨inside, -, -⟩)
        · rfl
        · exact absurd ended (Nat.not_le.2 inside)
      · rintro rfl
        exact .done ended
  | case2 char rest ih =>
      have inside : before.length < (before ++ char :: rest).length := by simp
      have later := ih (before ++ (first dialect char rest).1.chars)
      rw [List.append_assoc, chars_first_append, List.length_append] at later
      constructor
      · rintro (ended | ⟨-, here, onward⟩)
        · exact absurd ended (Nat.not_le.2 inside)
        · obtain rfl := Option.some.inj (here.symm.trans (span?_append dialect before char rest))
          rw [layOut, (later _).1 onward]
      · rintro rfl
        exact .step inside (span?_append dialect before char rest) ((later _).2 rfl)

/-- The cut of a text never reads outside of it: wherever it begins, a piece is found, stops behind
its beginning and inside the text, and is what stands between; so does a quoted section. From the
beginning there is one walk, over the pieces that binding uses, and it takes each position once. -/
theorem walk_inside (dialect : Dialect) (chars : List Char) :
    (∀ start < chars.length, ∃ span, span? dialect chars start = some span ∧
      span.start = start ∧ start < span.stop ∧ span.stop ≤ chars.length ∧
      slice? chars start span.stop = some span.piece.chars) ∧
    (∀ start quote, chars[start]? = some quote →
      start < quoteStop (hasBackslash dialect quote) quote chars (start + 1) ∧
      quoteStop (hasBackslash dialect quote) quote chars (start + 1) ≤ chars.length) ∧
    ∃ spans, (∀ others, Walk dialect chars 0 others ↔ others = spans) ∧
      spans.map Span.piece = ofChars dialect chars ∧
      spans.flatMap Span.positions = List.range chars.length := by
  refine ⟨?_, ?_, layOut 0 (ofChars dialect chars), walk_append_iff [] chars,
    map_piece_layOut 0 _, ?_⟩
  · intro start inside
    obtain ⟨before, char, rest, rfl, rfl⟩ := exists_eq_append_of_lt inside
    refine ⟨_, span?_append dialect before char rest, rfl, ?_, ?_, slice?_first before _ _ _⟩
    · exact Nat.lt_add_of_pos_right (List.length_pos_iff.2 (chars_first_ne_nil dialect char rest))
    · rw [List.length_append]
      exact Nat.add_le_add_left (length_first_le dialect char rest) _
  · intro start quote here
    obtain ⟨inside, -⟩ := List.getElem?_eq_some_iff.1 here
    obtain ⟨before, char, rest, rfl, rfl⟩ := exists_eq_append_of_lt inside
    rw [quoteStop_behind, List.length_append, List.length_cons]
    have within := length_closeQuote_le (hasBackslash dialect quote) quote rest
    omega
  · rw [positions_layOut, flatMap_chars_ofChars, List.range_eq_range']

/-- A string that ends behind a backslash: the search for its end goes one too far. -/
theorem walk_inside_backslash :
    0 < quoteStop true '\'' ['\'', '\\'] 1 ∧ quoteStop true '\'' ['\'', '\\'] 1 ≤ 2 ∧
      ∃ spans, (∀ others, Walk .mysql ['\'', '\\'] 0 others ↔ others = spans) ∧
        spans.map Span.piece = [.fixed ['\'', '\\']] := by
  obtain ⟨-, stops, spans, walks, pieces, -⟩ := walk_inside .mysql ['\'', '\\']
  refine ⟨(stops 0 '\'' rfl).1, (stops 0 '\'' rfl).2, spans, walks, ?_⟩
  rw [pieces]
  simp [ofChars, first, isQuote, closeQuote]

end Piece

end SqlClient
