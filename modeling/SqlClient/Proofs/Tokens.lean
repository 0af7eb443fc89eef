import SqlClient.Proofs.Escaped

/-!
# Tokens of a text

A text cut into its tokens, character by character, as a database reads it: names, numbers and
operators, quoted sections with everything inside them, brackets and connectives. Blanks and
comments part tokens and leave no trace. Quotes and comments are those that the scan for
placeholders knows. A text can be read apart from what follows it when it ends outside quotes and
comments, and names and literals are such texts, without brackets or connectives of their own.
-/

namespace SqlClient

namespace Reading

/-- What encloses other tokens. -/
inductive Bracket where
  /-- A pair of parentheses. -/
  | paren
  /-- CASE and its END. -/
  | choice
  /-- BETWEEN and its AND, which is no connective. -/
  | range
  deriving DecidableEq, Repr

/-- A smallest part of a text that has a meaning. -/
inductive Token where
  | opening (bracket : Bracket)
  | closing (bracket : Bracket)
  | connective (connective : Connective)
  /-- Anything else: a name, a number, an operator, a quoted section. -/
  | plain (chars : List Char)
  deriving DecidableEq, Repr

namespace Token

/-- The tokens with a meaning of their own, in lower case. -/
def known : List (List Char × Token) :=
  [(['('], .opening .paren), ([')'], .closing .paren),
    (['a', 'n', 'd'], .connective .and), (['o', 'r'], .connective .or),
    (['c', 'a', 's', 'e'], .opening .choice), (['e', 'n', 'd'], .closing .choice),
    (['b', 'e', 't', 'w', 'e', 'e', 'n'], .opening .range)]

/-- The token of characters; words mean the same in either case. -/
def ofChars (chars : List Char) : Token :=
  (known.lookup (chars.map Char.toLower)).getD (.plain chars)

def isPlain : Token → Bool
  | .plain _ => true
  | _ => false

end Token

/-- Where a reader of a text stands: the kind of token that the last character belongs to. -/
inductive Place where
  /-- Between tokens. -/
  | gap
  /-- Behind a token of one character. -/
  | symbol
  | word
  /-- Behind a minus sign, which may open a comment. -/
  | dash
  /-- Behind a slash, which may open a comment. -/
  | slash
  /-- Inside a quoted section. -/
  | quoted (quote : Char)
  /-- Behind a backslash that escapes the next character of a quoted section. -/
  | escaped (quote : Char)
  /-- Behind a quote that ends its section, unless it is doubled. -/
  | unquoted (quote : Char)
  /-- Inside a comment up to the end of the line. -/
  | lineComment
  /-- Inside a comment with an end of its own. -/
  | blockComment
  /-- Behind a star inside a comment. -/
  | star
  /-- Behind the end of a comment. -/
  | commentEnd
  deriving DecidableEq, Repr

/-- A character of names, parameters and numbers. -/
def isWordChar (char : Char) : Bool :=
  char.isAlphanum || ['_', '.', ':', '$', '@', '#'].contains char || 128 ≤ char.toNat

namespace Place

/-- The place behind the first character of a token. -/
def start (char : Char) : Place :=
  if char.isWhitespace then .gap
  else if Piece.isQuote char then .quoted char
  else if isWordChar char then .word
  else if char = '-' then .dash
  else if char = '/' then .slash
  else .symbol

/-- The place behind a character that continues the token before it; none when the character
begins a new one. -/
def extend (dialect : Dialect) (place : Place) (char : Char) : Option Place :=
  match place with
  | .gap | .symbol | .commentEnd => none
  | .word => if isWordChar char then some .word else none
  | .dash => if char = '-' then some .lineComment else none
  | .slash => if char = '*' then some .blockComment else none
  | .quoted quote =>
      if Piece.hasBackslash dialect quote && char == '\\' then some (.escaped quote)
      else if char = quote then some (.unquoted quote)
      else some (.quoted quote)
  | .escaped quote => some (.quoted quote)
  | .unquoted quote => if char = quote then some (.quoted quote) else none
  | .lineComment => if char = '\n' then none else some .lineComment
  | .blockComment => if char = '*' then some .star else some .blockComment
  | .star =>
      if char = '/' then some .commentEnd
      else if char = '*' then some .star
      else some .blockComment

/-- The place behind one more character. -/
def next (dialect : Dialect) (place : Place) (char : Char) : Place :=
  (place.extend dialect char).getD (start char)

/-- The token that ends at a place; blanks and comments are none. -/
def tokens (place : Place) (chars : List Char) : List Token :=
  match place with
  | .gap | .lineComment | .blockComment | .star | .commentEnd => []
  | _ => [.ofChars chars]

@[simp] theorem tokens_word (chars : List Char) : tokens .word chars = [.ofChars chars] := rfl

@[simp] theorem tokens_unquoted (quote : Char) (chars : List Char) :
    tokens (.unquoted quote) chars = [.ofChars chars] := rfl

/-- Outside quotes and comments. -/
def isOutside : Place → Bool
  | .quoted _ | .escaped _ | .lineComment | .blockComment | .star => false
  | .unquoted quote => Piece.isQuote quote
  | _ => true

/-- Where every character begins a new token. -/
def isSettled : Place → Bool
  | .gap | .symbol | .commentEnd => true
  | _ => false

end Place

/-- The tokens of the characters at a place, behind those of an unfinished token. -/
def tokensFrom (dialect : Dialect) : Place → List Char → List Char → List Token
  | place, pending, [] => place.tokens pending
  | place, pending, char :: rest =>
      match place.extend dialect char with
      | some next => tokensFrom dialect next (pending ++ [char]) rest
      | none => place.tokens pending ++ tokensFrom dialect (.start char) [char] rest

/-- The tokens of a text. -/
def tokens (dialect : Dialect) (text : String) : List Token :=
  tokensFrom dialect .gap [] text.toList

/-- The place behind a text. -/
def placeAfter (dialect : Dialect) (text : String) : Place :=
  text.toList.foldl (Place.next dialect) .gap

/-- A text whose last token does not go on in another text. -/
def Apart (dialect : Dialect) (left right : String) : Prop :=
  ∀ char ∈ right.toList.head?, (placeAfter dialect left).extend dialect char = none

variable {dialect : Dialect}

/-! ## Texts in a row -/

theorem tokensFrom_extend {place next : Place} {pending rest : List Char} {char : Char}
    (extended : place.extend dialect char = some next) :
    tokensFrom dialect place pending (char :: rest) =
      tokensFrom dialect next (pending ++ [char]) rest := by
  rw [tokensFrom, extended]

theorem tokensFrom_start {place : Place} {pending rest : List Char} {char : Char}
    (ends : place.extend dialect char = none) :
    tokensFrom dialect place pending (char :: rest) =
      place.tokens pending ++ tokensFrom dialect (.start char) [char] rest := by
  rw [tokensFrom, ends]

theorem tokensFrom_append {place : Place} {pending left right : List Char}
    (apart : ∀ char ∈ right.head?,
      (left.foldl (Place.next dialect) place).extend dialect char = none) :
    tokensFrom dialect place pending (left ++ right) =
      tokensFrom dialect place pending left ++ tokensFrom dialect .gap [] right := by
  -- The token under way at the end of the first text ends there, by the boundary.
  induction left generalizing place pending with
  | nil =>
      cases right with
      | nil => simp [tokensFrom, Place.tokens]
      | cons char rest =>
          have ends : place.extend dialect char = none := apart char rfl
          have fresh : Place.extend dialect .gap char = none := rfl
          rw [List.nil_append, tokensFrom_start ends, tokensFrom_start fresh]
          rfl
  | cons char left ih =>
      rw [List.foldl_cons, Place.next] at apart
      rw [List.cons_append]
      cases extended : place.extend dialect char with
      | none =>
          rw [extended, Option.getD_none] at apart
          rw [tokensFrom_start extended, tokensFrom_start extended, ih apart, List.append_assoc]
      | some next =>
          rw [extended] at apart
          rw [tokensFrom_extend extended, tokensFrom_extend extended]
          exact ih apart

/-- Texts that stay apart are cut apart. -/
theorem tokens_append {left right : String} (apart : Apart dialect left right) :
    tokens dialect (left ++ right) = tokens dialect left ++ tokens dialect right := by
  rw [tokens, String.toList_append]
  exact tokensFrom_append apart

theorem placeAfter_append {left right : String} (apart : Apart dialect left right)
    (filled : right ≠ "") : placeAfter dialect (left ++ right) = placeAfter dialect right := by
  cases written : right.toList with
  | nil => exact absurd (String.toList_eq_nil_iff.1 written) filled
  | cons char rest =>
      have ends : (placeAfter dialect left).extend dialect char = none :=
        apart char (by rw [written]; rfl)
      have same : (placeAfter dialect left).next dialect char = Place.next dialect .gap char := by
        rw [Place.next, ends]
        rfl
      rw [placeAfter, String.toList_append, List.foldl_append, ← placeAfter, written,
        List.foldl_cons, same, ← List.foldl_cons, ← written, ← placeAfter]

theorem isOutside_append {left right : String} (apart : Apart dialect left right)
    (first : (placeAfter dialect left).isOutside = true)
    (second : (placeAfter dialect right).isOutside = true) :
    (placeAfter dialect (left ++ right)).isOutside = true := by
  by_cases filled : right = ""
  · simpa [filled] using first
  · rwa [placeAfter_append apart filled]

theorem apart_of_settled {left : String} (right : String)
    (settled : (placeAfter dialect left).isSettled = true) : Apart dialect left right := by
  intro char _
  cases place : placeAfter dialect left <;> simp_all [Place.isSettled, Place.extend]

/-- A character that begins a new token behind every text that ends outside quotes. -/
def isDivider (char : Char) : Bool :=
  char == ' ' || char == ',' || char == ')'

theorem apart_of_divider {left right : String}
    (outside : (placeAfter dialect left).isOutside = true)
    (divided : right.toList.head?.all isDivider = true) : Apart dialect left right := by
  intro char first
  have divider : isDivider char = true := by simpa [Option.mem_def.1 first] using divided
  simp only [isDivider, Bool.or_eq_true, beq_iff_eq] at divider
  cases place : placeAfter dialect left with
  | quoted _ | escaped _ | lineComment | blockComment | star =>
      rw [place] at outside
      contradiction
  | gap | symbol | commentEnd => rfl
  | word | dash | slash => rcases divider with (rfl | rfl) | rfl <;> rfl
  | unquoted quote =>
      have quoting : Piece.isQuote quote = true := by rwa [place] at outside
      have other : char ≠ quote := by
        rintro rfl
        rcases divider with (rfl | rfl) | rfl <;> contradiction
      simp [Place.extend, other]

/-! ## Plain texts -/

/-- A text without brackets and connectives that ends outside quotes and comments. -/
def Inert (dialect : Dialect) (text : String) : Prop :=
  (placeAfter dialect text).isOutside = true ∧ (tokens dialect text).all Token.isPlain = true

instance (dialect : Dialect) (text : String) : Decidable (Inert dialect text) :=
  inferInstanceAs (Decidable (_ ∧ _))

theorem inert_append {left right : String} (apart : Apart dialect left right)
    (first : Inert dialect left) (second : Inert dialect right) :
    Inert dialect (left ++ right) := by
  refine ⟨isOutside_append apart first.1 second.1, ?_⟩
  rw [tokens_append apart, List.all_append, first.2, second.2]
  rfl

theorem ofChars_of_head {char : Char} {chars : List Char}
    (other : char.toLower ∉ ['(', ')', 'a', 'o', 'c', 'e', 'b']) :
    Token.ofChars (char :: chars) = .plain (char :: chars) := by
  simp only [List.mem_cons, List.not_mem_nil, or_false, not_or, ← ne_eq,
    ← beq_eq_false_iff_ne] at other
  simp [Token.ofChars, Token.known, List.lookup_cons, other]

/-- The place behind characters that all belong to the token under way. -/
def extendAll (dialect : Dialect) (place : Place) (chars : List Char) : Option Place :=
  chars.foldlM (Place.extend dialect) place

theorem extendAll_cons (dialect : Dialect) (place : Place) (char : Char) (rest : List Char) :
    extendAll dialect place (char :: rest) =
      (place.extend dialect char).bind fun next => extendAll dialect next rest :=
  List.foldlM_cons

theorem tokensFrom_of_extendAll {place last : Place} {pending chars : List Char}
    (extended : extendAll dialect place chars = some last) :
    tokensFrom dialect place pending chars = last.tokens (pending ++ chars) := by
  induction chars generalizing place pending with
  | nil =>
      obtain rfl : place = last := by simpa [extendAll] using extended
      simp [tokensFrom]
  | cons char rest ih =>
      rw [extendAll_cons, Option.bind_eq_some_iff] at extended
      obtain ⟨next, here, later⟩ := extended
      rw [tokensFrom_extend here, ih later, List.append_assoc]
      rfl

theorem foldl_next_of_extendAll {place last : Place} {chars : List Char}
    (extended : extendAll dialect place chars = some last) :
    chars.foldl (Place.next dialect) place = last := by
  induction chars generalizing place with
  | nil => simpa [extendAll] using extended
  | cons char rest ih =>
      rw [extendAll_cons, Option.bind_eq_some_iff] at extended
      obtain ⟨next, here, later⟩ := extended
      rw [List.foldl_cons, Place.next, here]
      exact ih later

/-- Characters that make up one token. -/
theorem single_token {char : Char} {chars : List Char} {last : Place}
    (extended : extendAll dialect (.start char) chars = some last) :
    placeAfter dialect (String.ofList (char :: chars)) = last ∧
      tokens dialect (String.ofList (char :: chars)) = last.tokens (char :: chars) := by
  have fresh : Place.extend dialect .gap char = none := rfl
  refine ⟨?_, ?_⟩
  · rw [placeAfter, String.toList_ofList, List.foldl_cons, Place.next, fresh]
    exact foldl_next_of_extendAll extended
  · rw [tokens, String.toList_ofList, tokensFrom_start fresh, tokensFrom_of_extendAll extended]
    rfl

/-! ## Quoted sections -/

/-- A section that ends before the text does is closed by its last quote. -/
theorem extendAll_closeQuote (quote : Char) (chars : List Char)
    (more : (Piece.closeQuote (Piece.hasBackslash dialect quote) quote chars).2 ≠ []) :
    extendAll dialect (.quoted quote)
      (Piece.closeQuote (Piece.hasBackslash dialect quote) quote chars).1 =
        some (.unquoted quote) := by
  generalize backslash : Piece.hasBackslash dialect quote = escapes at more ⊢
  fun_induction Piece.closeQuote escapes quote chars with
  | case1 => contradiction
  | case2 => contradiction
  | case3 char next rest paired inner after cut ih =>
      have inside : extendAll dialect (.quoted quote) inner = some (.unquoted quote) := by
        rw [cut] at ih
        exact ih more
      simp only [Bool.or_eq_true, Bool.and_eq_true, beq_iff_eq] at paired
      rw [extendAll_cons, Place.extend, backslash]
      by_cases slash : escapes = true ∧ char = '\\'
      · simp [slash, extendAll_cons, Place.extend, inside]
      · obtain ⟨rfl, rfl⟩ := paired.resolve_left slash
        simp [slash, extendAll_cons, Place.extend, inside]
  | case4 char next rest unpaired closes =>
      simp only [Bool.or_eq_true, Bool.and_eq_true, beq_iff_eq, not_or] at unpaired closes
      subst closes
      rw [extendAll_cons, Place.extend, backslash]
      simp [unpaired.1, extendAll]
  | case5 char next rest unpaired other inner after cut ih =>
      have inside : extendAll dialect (.quoted quote) inner = some (.unquoted quote) := by
        rw [cut] at ih
        exact ih more
      simp only [Bool.or_eq_true, Bool.and_eq_true, beq_iff_eq, not_or] at unpaired other
      rw [extendAll_cons, Place.extend, backslash]
      simp [unpaired.1, other, inside]

/-- A quoted section is one token. -/
theorem section_token {quote : Char} {inner : List Char} (quoting : Piece.isQuote quote = true)
    (inside : Piece.Inside (Piece.hasBackslash dialect quote) quote inner) :
    placeAfter dialect (String.ofList (quote :: inner ++ [quote])) = .unquoted quote ∧
      tokens dialect (String.ofList (quote :: inner ++ [quote])) =
        [.plain (quote :: inner ++ [quote])] := by
  have known : quote = '\'' ∨ quote = '"' ∨ quote = '\x60' := by
    simpa [Piece.isQuote, or_assoc] using quoting
  have opens : Place.start quote = .quoted quote := by
    rcases known with rfl | rfl | rfl <;> rfl
  have visible : quote ≠ '\\' := by
    rcases known with rfl | rfl | rfl <;> decide
  have blank : ' ' ≠ quote := by
    rcases known with rfl | rfl | rfl <;> decide
  -- A blank behind the section shows that its last quote is the one that closes it.
  have cut : Piece.closeQuote (Piece.hasBackslash dialect quote) quote (inner ++ [quote, ' ']) =
      (inner ++ [quote], [' ']) := by
    rw [inside, Piece.closeQuote_quote visible (by simpa using blank)]
  have whole : extendAll dialect (.quoted quote) _ = _ :=
    extendAll_closeQuote quote (inner ++ [quote, ' ']) (by rw [cut]; simp)
  rw [cut, ← opens] at whole
  have lower : quote.toLower ∉ ['(', ')', 'a', 'o', 'c', 'e', 'b'] := by
    rcases known with rfl | rfl | rfl <;> decide
  obtain ⟨place, once⟩ := single_token whole
  refine ⟨place, once.trans ?_⟩
  rw [Place.tokens_unquoted, List.cons_append, ofChars_of_head lower]

theorem inert_section {quote : Char} {inner : List Char} (quoting : Piece.isQuote quote = true)
    (inside : Piece.Inside (Piece.hasBackslash dialect quote) quote inner) :
    Inert dialect (String.ofList (quote :: inner ++ [quote])) := by
  obtain ⟨place, once⟩ := section_token quoting inside
  rw [Inert, place, once]
  exact ⟨quoting, rfl⟩

/-! ## Names -/

theorem isQuote_quote (dialect : Dialect) : Piece.isQuote dialect.quote = true := by
  cases dialect <;> decide

/-- A quoted name is one token, and a point begins another. -/
theorem quoteName_token (dialect : Dialect) (name : String) :
    Inert dialect (dialect.quoteName name) ∧
      ∀ rest, Apart dialect (dialect.quoteName name) ("." ++ rest) := by
  unfold Dialect.quoteName
  split
  · exact ⟨by cases dialect <;> decide,
      fun rest => apart_of_settled _ (by cases dialect <;> decide)⟩
  · have unescaped : Piece.hasBackslash dialect dialect.quote = false := by
      cases dialect <;> decide
    have inside := inside_doubleChar dialect.quote name.toList
    rw [← unescaped] at inside
    refine ⟨inert_section (isQuote_quote dialect) inside, ?_⟩
    intro rest char first
    obtain rfl : char = '.' := by simpa [eq_comm] using first
    have other : '.' ≠ dialect.quote := by cases dialect <;> decide
    rw [(section_token (isQuote_quote dialect) inside).1]
    simp [Place.extend, other]

/-- Behind a point begins the token of a name. -/
theorem apart_point_quoteName (name rest : String) :
    Apart dialect "." (dialect.quoteName name ++ rest) := by
  intro char first
  have place : placeAfter dialect "." = .word := by cases dialect <;> decide
  have opens : char = '*' ∨ char = dialect.quote := by
    unfold Dialect.quoteName at first
    split at first
    · exact Or.inl (by simpa [eq_comm] using first)
    · exact Or.inr (by simpa [eq_comm] using first)
  rw [place]
  rcases opens with rfl | rfl
  · rfl
  · cases dialect <;> rfl

theorem inert_quotePath (dialect : Dialect) (names : List String) :
    Inert dialect (dialect.quotePath names) := by
  unfold Dialect.quotePath
  induction names with
  | nil => exact ⟨rfl, rfl⟩
  | cons name rest ih =>
      obtain ⟨plain, ends⟩ := quoteName_token dialect name
      cases rest with
      | nil => simpa using plain
      | cons next rest =>
          have point : Inert dialect "." := by cases dialect <;> decide
          obtain ⟨after, begins⟩ : ∃ after, ".".intercalate ((next :: rest).map
              dialect.quoteName) = dialect.quoteName next ++ after := by
            cases rest with
            | nil => exact ⟨"", by simp⟩
            | cons third rest =>
                exact ⟨_, by rw [List.map_cons, List.map_cons, String.intercalate_cons_cons,
                  String.append_assoc]⟩
          have parted : Apart dialect "." (".".intercalate ((next :: rest).map
              dialect.quoteName)) := begins ▸ apart_point_quoteName next after
          rw [List.map_cons, List.map_cons, String.intercalate_cons_cons, ← List.map_cons,
            String.append_assoc]
          exact inert_append (ends _) plain (inert_append parted point ih)

theorem inert_renderAlias (dialect : Dialect) (label? : Option String) :
    Inert dialect (Identifier.renderAlias dialect label?) := by
  cases label? with
  | none => exact ⟨rfl, rfl⟩
  | some label =>
      have settled : (placeAfter dialect " AS ").isSettled = true := by cases dialect <;> decide
      exact inert_append (apart_of_settled _ settled) (by cases dialect <;> decide)
        (quoteName_token dialect label).1

theorem inert_identifier (dialect : Dialect) {identifier : Identifier}
    (plain : identifier.isRaw = false) : Inert dialect (identifier.render dialect) := by
  obtain ⟨name, alias?, _⟩ := identifier
  cases name with
  | raw sql => simp [Identifier.isRaw] at plain
  | path path =>
      have named := inert_quotePath dialect path.parts
      refine inert_append (apart_of_divider named.1 ?_) named (inert_renderAlias dialect alias?)
      cases alias? <;> simp [Identifier.renderAlias, isDivider]

/-! ## Literals -/

theorem isWordChar_of_isNumeric {char : Char} (numeric : isNumeric char = true) :
    isWordChar char = true := by
  simp only [isNumeric, Bool.or_eq_true, beq_iff_eq] at numeric
  rcases numeric with digit | rfl
  · simp [isWordChar, Char.isAlphanum, digit]
  · decide

/-- A number begins a word, and no word with a meaning of its own. -/
theorem start_of_isNumeric {char : Char} (numeric : isNumeric char = true) :
    Place.start char = .word ∧ char.toLower ∉ ['(', ')', 'a', 'o', 'c', 'e', 'b'] := by
  have word := isWordChar_of_isNumeric numeric
  have small : char.toLower = char := by
    simp only [isNumeric, Char.isDigit, Bool.or_eq_true, Bool.and_eq_true, decide_eq_true_eq,
      beq_iff_eq] at numeric
    unfold Char.toLower
    split
    · next capital =>
      rcases numeric with digit | rfl
      · exact absurd (UInt32.le_trans capital.1 digit.2) (by decide)
      · exact absurd capital.1 (by decide)
    · rfl
  rw [small]
  have others : ∀ other, isNumeric other = false → char ≠ other := by
    rintro other absent rfl
    rw [numeric] at absent
    contradiction
  have blank : char.isWhitespace = false := by
    simp [Char.isWhitespace, others ' ' (by decide), others '\t' (by decide),
      others '\r' (by decide), others '\n' (by decide)]
  have quote : Piece.isQuote char = false := by
    simp [Piece.isQuote, others '\'' (by decide), others '"' (by decide),
      others '\x60' (by decide)]
  refine ⟨by simp [Place.start, blank, quote, word], ?_⟩
  simp [others '(' (by decide), others ')' (by decide), others 'a' (by decide),
    others 'o' (by decide), others 'c' (by decide), others 'e' (by decide),
    others 'b' (by decide)]

theorem extendAll_word {chars : List Char} (word : chars.all isWordChar = true) :
    extendAll dialect .word chars = some .word := by
  induction chars with
  | nil => rfl
  | cons char rest ih =>
      simp only [List.all_cons, Bool.and_eq_true] at word
      rw [extendAll_cons, Place.extend, if_pos word.1]
      exact ih word.2

/-- A number without a sign is one token. -/
theorem inert_number {text : String} (numeric : text.toList.all isNumeric = true) :
    Inert dialect text := by
  cases written : text.toList with
  | nil =>
      rw [String.toList_eq_nil_iff.1 written]
      exact ⟨rfl, rfl⟩
  | cons char chars =>
      rw [written, List.all_cons, Bool.and_eq_true] at numeric
      obtain ⟨starts, lower⟩ := start_of_isNumeric numeric.1
      have words : chars.all isWordChar = true :=
        List.all_eq_true.2 fun next member =>
          isWordChar_of_isNumeric (List.all_eq_true.1 numeric.2 next member)
      have extended : extendAll dialect (.start char) chars = some .word := by
        rw [starts]
        exact extendAll_word words
      obtain ⟨place, once⟩ := single_token extended
      rw [Place.tokens_word, ofChars_of_head lower] at once
      rw [← String.ofList_toList (s := text), written, Inert, place, once]
      exact ⟨rfl, rfl⟩

/-- A sign may stand before what does not begin with one. -/
theorem inert_signed {text : String} (negative : Bool) (inert : Inert dialect text)
    (unsigned : text.toList.head? ≠ some '-') :
    Inert dialect ((if negative then "-" else "") ++ text) := by
  cases negative with
  | false => simpa using inert
  | true =>
      have sign : Inert dialect "-" := by cases dialect <;> decide
      refine inert_append ?_ sign inert
      intro char first
      have other : char ≠ '-' := by
        rintro rfl
        exact unsigned first
      have place : placeAfter dialect "-" = .dash := by cases dialect <;> decide
      change (placeAfter dialect "-").extend dialect char = none
      rw [place, Place.extend, if_neg other]

theorem unsigned_of_numeric {text : String} (numeric : text.toList.all isNumeric = true) :
    text.toList.head? ≠ some '-' := by
  intro first
  have minus := List.all_eq_true.1 numeric '-' (List.mem_of_head? first)
  contradiction

theorem inert_float (dialect : Dialect) (value : Binary64) :
    Inert dialect (Decimal.render .plain value) := by
  unfold Decimal.render
  dsimp only
  split
  · cases dialect <;> decide
  · exact inert_signed value.isNegative (by cases dialect <;> decide) (by decide)
  · have numeric := numeric_positionalChars
      (Decimal.shortest Decimal.Layout.plain.tie ‹_› ‹_›)
    rw [← String.toList_ofList (l := Decimal.positionalChars _ "")] at numeric
    exact inert_signed value.isNegative (inert_number numeric) (unsigned_of_numeric numeric)

theorem inert_textLiteral (dialect : Dialect) (text : String) :
    Inert dialect (dialect.textLiteral text) := by
  rw [textLiteral_eq]
  exact inert_section (by decide) (inside_escapeChars dialect text.toList)

theorem inert_hexLiteral (dialect : Dialect) (bytes : List UInt8) :
    Inert dialect ("X'" ++ String.ofList (Text.hexChars bytes) ++ "'") := by
  rw [hexLiteral_eq]
  refine inert_append ?_ (by cases dialect <;> decide)
    (inert_section (by decide) (inside_hexChars _ bytes))
  intro char first
  obtain rfl : char = '\'' := by simpa [eq_comm] using first
  cases dialect <;> rfl

theorem inert_byteaLiteral (bytes : List UInt8) :
    Inert .postgres ("'\\x" ++ String.ofList (Text.hexChars bytes) ++ "'::bytea") := by
  have quoted := inside_byteaChars bytes
  have written : "'\\x" ++ String.ofList (Text.hexChars bytes) ++ "'::bytea" =
      String.ofList ('\'' :: ('\\' :: 'x' :: Text.hexChars bytes) ++ ['\'']) ++ "::bytea" := by
    rw [← String.toList_inj]
    simp
  rw [written]
  refine inert_append ?_ (inert_section (by decide) quoted) (by decide)
  intro char first
  obtain rfl : char = ':' := by simpa [eq_comm] using first
  rw [(section_token (by decide) quoted).1]
  rfl

theorem inert_blobLiteral (dialect : Dialect) (bytes : List UInt8) :
    Inert dialect (dialect.blobLiteral bytes) := by
  cases dialect with
  | mysql => exact inert_hexLiteral .mysql bytes
  | postgres => exact inert_byteaLiteral bytes
  | sqlite => exact inert_hexLiteral .sqlite bytes

theorem inert_literal (dialect : Dialect) (value : Scalar) :
    Inert dialect (value.literal dialect) := by
  cases value with
  | null => cases dialect <;> decide
  | bool value => cases dialect <;> cases value <;> decide
  | int value =>
      rw [Scalar.literal, toString_int]
      have numeric := numeric_nat value.toInt.natAbs
      exact inert_signed _ (inert_number numeric) (unsigned_of_numeric numeric)
  | float value => exact inert_float dialect value
  | text value => exact inert_textLiteral dialect value
  | blob bytes => exact inert_blobLiteral dialect bytes

end Reading

end SqlClient
