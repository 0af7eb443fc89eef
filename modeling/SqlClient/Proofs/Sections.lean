import SqlClient.Proofs.Ordering

/-!
# Quoted sections

Two scanners read names: one cuts a text into words and finds the quotes from the word so far, the
other cuts a word into parts and finds them from where a part starts. Both see the same sections. A
text whose sections end is an arrangement of sections and of characters outside of them, its words
stand between the blanks outside, and no section of a word is left open for the parts.
-/

namespace SqlClient

namespace Scanner

open Dialect

variable {quote : Char}

/-! ## Arrangements -/

/-- A stretch of a text of names. -/
inductive Fragment where
  /-- A quoted section, given by its content. -/
  | quoted (content : List Char)
  /-- A character outside quotes. -/
  | bare (char : Char)
  deriving DecidableEq, Repr

namespace Fragment

/-- The characters of a fragment; inside a section a quote is doubled. -/
def chars (quote : Char) : Fragment → List Char
  | quoted content => quote :: (doubleChar quote content ++ [quote])
  | bare char => [char]

/-- A blank outside quotes. -/
def isGap : Fragment → Bool
  | quoted _ => false
  | bare char => Text.isBlank char

theorem chars_ne_nil (quote : Char) (fragment : Fragment) : fragment.chars quote ≠ [] := by
  cases fragment <;> simp [chars]

end Fragment

/-- The text of fragments. -/
def text (quote : Char) (fragments : List Fragment) : List Char :=
  fragments.flatMap (Fragment.chars quote)

@[simp] theorem text_nil (quote : Char) : text quote [] = [] := rfl

@[simp] theorem text_cons (quote : Char) (fragment : Fragment) (fragments : List Fragment) :
    text quote (fragment :: fragments) = fragment.chars quote ++ text quote fragments := rfl

/-- What stands in front of a fragment. -/
inductive Spot where
  /-- Nothing of a part: the text, a word or a part starts. -/
  | start
  /-- A character of an unquoted part. -/
  | within
  /-- The end of a section. -/
  | closed
  deriving DecidableEq, Repr

/-- The spot behind a character outside quotes. -/
def Spot.after (char : Char) : Spot :=
  if char = '.' ∨ Text.isBlank char = true then .start else .within

/-- Fragments in an order in which they can be told apart. A section stands only where a part
starts, and there and behind a section a quote is not a character of its own. -/
inductive Arranged (quote : Char) : Spot → List Fragment → Prop where
  | nil (spot : Spot) : Arranged quote spot []
  | quoted (content : List Char) {rest : List Fragment} (arranged : Arranged quote .closed rest) :
      Arranged quote .start (.quoted content :: rest)
  | bare {spot : Spot} {char : Char} {rest : List Fragment}
      (plain : char = quote → spot = .within) (arranged : Arranged quote (.after char) rest) :
      Arranged quote spot (.bare char :: rest)

/-- Where no section can start, no quote follows that could be taken for one. -/
theorem Arranged.head?_text {fragments : List Fragment}
    (arranged : Arranged quote .closed fragments) : (text quote fragments).head? ≠ some quote := by
  cases arranged with
  | nil => simp
  | bare plain arranged =>
      intro same
      cases plain (Option.some.inj same)

/-! ## Words of arrangements -/

/-- The texts between the blanks outside quotes, the first of them behind a word so far. -/
def wordsBetween (quote : Char) (word : List Char) (fragments : List Fragment) :
    List (List Char) :=
  (((fragments.splitOnP Fragment.isGap).map (text quote)).modifyHead (word.reverse ++ ·)).filter
    (· ≠ [])

theorem wordsBetween_nil (word : List Char) : wordsBetween quote word [] = finishWord word [] := by
  by_cases given : word = [] <;> simp [wordsBetween, finishWord, given]

theorem wordsBetween_gap {fragment : Fragment} (word : List Char) (fragments : List Fragment)
    (gap : fragment.isGap = true) : wordsBetween quote word (fragment :: fragments) =
      finishWord word (wordsBetween quote [] fragments) := by
  obtain ⟨run, runs, cut⟩ := List.exists_cons_of_ne_nil
    (List.splitOnP_ne_nil Fragment.isGap fragments)
  by_cases given : word = [] <;>
    simp [wordsBetween, finishWord, given, List.splitOnP_cons_eq_if_modifyHead, gap, cut]

theorem wordsBetween_cons {fragment : Fragment} (word : List Char) (fragments : List Fragment)
    (kept : fragment.isGap = false) : wordsBetween quote word (fragment :: fragments) =
      wordsBetween quote ((fragment.chars quote).reverse ++ word) fragments := by
  obtain ⟨run, runs, cut⟩ := List.exists_cons_of_ne_nil
    (List.splitOnP_ne_nil Fragment.isGap fragments)
  simp [wordsBetween, List.splitOnP_cons_eq_if_modifyHead, kept, cut]

theorem text_eq_nil_iff {fragments : List Fragment} :
    text quote fragments = [] ↔ fragments = [] := by
  cases fragments <;> simp [Fragment.chars_ne_nil]

/-- The words of fragments are the texts of the runs of fragments that are not empty. -/
theorem wordsBetween_eq_map (fragments : List Fragment) :
    wordsBetween quote [] fragments =
      ((fragments.splitOnP Fragment.isGap).filter (· ≠ [])).map (text quote) := by
  have unchanged : ([].reverse ++ · : List Char → List Char) = id := rfl
  rw [wordsBetween, unchanged, List.modifyHead_id, id, List.filter_map]
  exact congrArg _ (List.filter_congr fun run _ => by simp [text_eq_nil_iff])

/-- Nothing of the text is lost but the blanks outside quotes. -/
theorem flatten_wordsBetween (word : List Char) (fragments : List Fragment) :
    (wordsBetween quote word fragments).flatten =
      word.reverse ++ text quote (fragments.filter (!·.isGap)) := by
  have flatten_finishWord : ∀ (word : List Char) (words : List (List Char)),
      (finishWord word words).flatten = word.reverse ++ words.flatten := by
    intro word words
    by_cases given : word = [] <;> simp [finishWord, given]
  induction fragments generalizing word with
  | nil => rw [wordsBetween_nil, flatten_finishWord, List.flatten_nil, List.filter_nil, text_nil]
  | cons fragment fragments ih =>
      cases gap : fragment.isGap with
      | true =>
          rw [wordsBetween_gap _ _ gap, flatten_finishWord, ih,
            List.filter_cons_of_neg (by simp [gap])]
          rfl
      | false =>
          rw [wordsBetween_cons _ _ gap, ih, List.filter_cons_of_pos (by simp [gap]), text_cons]
          simp

/-- The spot behind a word so far, which is given backwards. -/
def spotOf (closed : Bool) (word : List Char) : Spot :=
  if closed then .closed
  else if word = [] ∨ word.head? = some '.' then .start
  else .within

theorem opens_iff {closed : Bool} {word : List Char} {char : Char} :
    opens quote closed word char = true ↔ char = quote ∧ spotOf closed word ≠ .within := by
  rw [opens, spotOf]
  by_cases starts : word = [] ∨ word.head? = some '.' <;> cases closed <;> simp_all

theorem spotOf_gap {char : Char} (blank : Text.isBlank char = true) :
    spotOf false [] = .after char := by
  simp [spotOf, Spot.after, blank]

theorem spotOf_cons {char : Char} (word : List Char) (visible : ¬Text.isBlank char = true) :
    spotOf false (char :: word) = .after char := by
  simp [spotOf, Spot.after, visible]

/-- An arrangement is cut into the texts between its blanks outside quotes. -/
theorem wordsFrom_text {closed : Bool} {word : List Char} {fragments : List Fragment}
    (arranged : Arranged quote (spotOf closed word) fragments) :
    wordsFrom quote (.outside closed) word (text quote fragments) =
      some (wordsBetween quote word fragments) := by
  generalize spotted : spotOf closed word = spot at arranged
  induction arranged generalizing closed word with
  | nil => simp [wordsFrom, wordsBetween_nil]
  | quoted content arranged ih =>
      have opened : opens quote closed word quote = true := by simp [opens_iff, spotted]
      have behind : ∀ word, spotOf true word = .closed := fun _ => rfl
      rw [text_cons, wordsBetween_cons _ _ rfl, ← ih (behind _)]
      simp [Fragment.chars, wordsFrom, opened, wordsFrom_inside]
  | @bare spot char rest plain arranged ih =>
      have unopened : ¬opens quote closed word char = true := by
        rw [opens_iff, not_and_not_right, spotted]
        exact plain
      rw [text_cons, Fragment.chars, List.singleton_append, wordsFrom, if_neg unopened]
      by_cases blank : Text.isBlank char = true
      · have gap : (Fragment.bare char).isGap = true := blank
        rw [if_pos blank, ih (spotOf_gap blank), wordsBetween_gap _ _ gap, Option.map_some]
      · have kept : (Fragment.bare char).isGap = false := eq_false_of_ne_true blank
        rw [if_neg blank, ih (spotOf_cons word blank), wordsBetween_cons _ _ kept]
        rfl

/-! ## Arrangements of texts -/

/-- A section that the scan for words leaves ends at a quote that is not doubled. -/
theorem exists_section_of_wordsFrom {word chars : List Char} {words : List (List Char)}
    (cut : wordsFrom quote .inside word chars = some words) :
    ∃ content rest, chars = doubleChar quote content ++ quote :: rest ∧
      rest.head? ≠ some quote := by
  fun_induction section? quote chars generalizing word with
  | case1 => cases cut
  | case2 => exact ⟨[], [], by simp [doubleChar], by simp⟩
  | case3 char other => simp [wordsFrom, other] at cut
  | case4 tail ih =>
      have inner : wordsFrom quote .inside (quote :: quote :: word) tail = some words := by
        simpa [wordsFrom, opens] using cut
      obtain ⟨content, rest, rfl, single⟩ := ih inner
      exact ⟨quote :: content, rest, by simp [doubleChar_cons], single⟩
  | case5 next tail other =>
      exact ⟨[], next :: tail, by simp [doubleChar], by simpa using other⟩
  | case6 char next tail other ih =>
      rw [wordsFrom, if_neg other] at cut
      obtain ⟨content, rest, ahead, single⟩ := ih cut
      exact ⟨char :: content, rest, by simp [doubleChar_cons, other, ahead], single⟩

/-- A text whose sections end is the text of an arrangement. -/
theorem exists_arranged {closed : Bool} {word chars : List Char} {words : List (List Char)}
    (single : closed = true → chars.head? ≠ some quote)
    (cut : wordsFrom quote (.outside closed) word chars = some words) :
    ∃ fragments, Arranged quote (spotOf closed word) fragments ∧ text quote fragments = chars := by
  -- A section takes several characters at once, so the induction is on their number.
  induction size : chars.length using Nat.strongRecOn generalizing closed word chars words with
  | ind size ih =>
      subst size
      cases chars with
      | nil => exact ⟨[], .nil _, rfl⟩
      | cons char chars =>
          rw [wordsFrom] at cut
          split at cut
          · next opened =>
            obtain ⟨rfl, outside⟩ := opens_iff.1 opened
            have start : spotOf closed word = .start := by
              cases closed with
              | true => exact absurd rfl (single rfl)
              | false =>
                  rw [spotOf] at outside ⊢
                  split <;> simp_all
            obtain ⟨content, rest, rfl, ended⟩ := exists_section_of_wordsFrom cut
            rw [wordsFrom_inside] at cut
            obtain ⟨fragments, arranged, written⟩ :=
              ih rest.length (by simp; omega) (fun _ => ended) cut rfl
            refine ⟨.quoted content :: fragments, start ▸ .quoted content arranged, ?_⟩
            simp [Fragment.chars, written]
          · next unopened =>
            have plain : char = quote → spotOf closed word = .within := by
              rwa [opens_iff, not_and_not_right] at unopened
            split at cut
            · next blank =>
              obtain ⟨later, cut, -⟩ := Option.map_eq_some_iff.1 cut
              obtain ⟨fragments, arranged, rfl⟩ := ih chars.length (by simp) (by simp) cut rfl
              rw [spotOf_gap blank] at arranged
              exact ⟨.bare char :: fragments, .bare plain arranged, rfl⟩
            · next visible =>
              obtain ⟨fragments, arranged, rfl⟩ := ih chars.length (by simp) (by simp) cut rfl
              rw [spotOf_cons word visible] at arranged
              exact ⟨.bare char :: fragments, .bare plain arranged, rfl⟩

/-- Fragments of one word, behind a spot. -/
structure Joined (quote : Char) (spot : Spot) (fragments : List Fragment) : Prop where
  arranged : Arranged quote spot fragments
  unbroken : ∀ fragment ∈ fragments, fragment.isGap = false

theorem joined_nil (spot : Spot) : Joined quote spot [] :=
  ⟨.nil spot, by simp⟩

/-- Between blanks outside quotes stand the fragments of words. -/
theorem exists_runs {spot : Spot} {fragments : List Fragment}
    (arranged : Arranged quote spot fragments) :
    ∃ run runs, fragments.splitOnP Fragment.isGap = run :: runs ∧ Joined quote spot run ∧
      ∀ other ∈ runs, Joined quote .start other := by
  induction arranged with
  | nil spot => exact ⟨[], [], rfl, joined_nil spot, by simp⟩
  | quoted content _ ih =>
      obtain ⟨run, runs, cut, joined, later⟩ := ih
      refine ⟨.quoted content :: run, runs, ?_, ⟨.quoted content joined.arranged, ?_⟩, later⟩
      · simp [List.splitOnP_cons_eq_if_modifyHead, Fragment.isGap, cut]
      · exact List.forall_mem_cons.2 ⟨rfl, joined.unbroken⟩
  | @bare spot char rest plain _ ih =>
      obtain ⟨run, runs, cut, joined, later⟩ := ih
      by_cases blank : Text.isBlank char = true
      · have start : Spot.after char = .start := by simp [Spot.after, blank]
        refine ⟨[], run :: runs, ?_, joined_nil spot, ?_⟩
        · simp [List.splitOnP_cons_eq_if_modifyHead, Fragment.isGap, blank, cut]
        · exact List.forall_mem_cons.2 ⟨start ▸ joined, later⟩
      · refine ⟨.bare char :: run, runs, ?_, ⟨.bare plain joined.arranged, ?_⟩, later⟩
        · simp [List.splitOnP_cons_eq_if_modifyHead, Fragment.isGap, blank, cut]
        · exact List.forall_mem_cons.2 ⟨eq_false_of_ne_true blank, joined.unbroken⟩

/-- The fragments between blanks outside quotes are those of a word. -/
theorem joined_of_mem_splitOnP {fragments run : List Fragment}
    (arranged : Arranged quote .start fragments)
    (member : run ∈ fragments.splitOnP Fragment.isGap) : Joined quote .start run := by
  obtain ⟨first, runs, cut, joined, later⟩ := exists_runs arranged
  rw [cut] at member
  exact List.forall_mem_cons.2 ⟨joined, later⟩ run member

/-! ## Parts of words -/

/-- A text goes on with a point and the fragments of further parts, fewer than there were. -/
def Continues (quote : Char) (count : Nat) (chars : List Char) : Prop :=
  ∃ later, chars = '.' :: text quote later ∧ Joined quote .start later ∧ later.length < count

theorem Joined.tail_bare {spot : Spot} {char : Char} {rest : List Fragment}
    (joined : Joined quote spot (.bare char :: rest)) :
    (char = quote → spot = .within) ∧
      Joined quote (if char = '.' then .start else .within) rest := by
  obtain ⟨arranged, unbroken⟩ := joined
  obtain ⟨visible, unbroken⟩ := List.forall_mem_cons.1 unbroken
  cases arranged with
  | bare plain arranged =>
      have after : Spot.after char = if char = '.' then .start else .within := by
        simp [Spot.after, show Text.isBlank char = false from visible]
      exact ⟨plain, after ▸ arranged, unbroken⟩

/-- An unquoted part of a word goes up to a point outside quotes. -/
theorem continues_dropWhile {fragments : List Fragment} (joined : Joined quote .within fragments) :
    (text quote fragments).dropWhile (· ≠ '.') = [] ∨
      Continues quote fragments.length ((text quote fragments).dropWhile (· ≠ '.')) := by
  induction fragments with
  | nil => exact .inl rfl
  | cons fragment rest ih =>
      cases fragment with
      | quoted content => cases joined.arranged
      | bare char =>
          obtain ⟨-, later⟩ := joined.tail_bare
          rw [text_cons, Fragment.chars, List.singleton_append]
          by_cases point : char = '.'
          · rw [if_pos point] at later
            exact .inr ⟨rest, by simp [point], later, Nat.lt_succ_self _⟩
          · rw [if_neg point] at later
            rw [List.dropWhile_cons_of_pos (by simpa using point)]
            refine (ih later).imp_right ?_
            rintro ⟨further, same, starts, fewer⟩
            exact ⟨further, same, starts, Nat.lt_succ_of_lt fewer⟩

/-- The first part of a word ends, and behind a point the next part starts where the word has a
point outside quotes. -/
theorem exists_leadingPart {fragments : List Fragment} (joined : Joined quote .start fragments) :
    ∃ part rest, leadingPart quote (text quote fragments) = some (part, rest) ∧
      (rest.head? = some '.' → Continues quote fragments.length rest) := by
  cases fragments with
  | nil => exact ⟨[], [], rfl, by simp⟩
  | cons fragment fragments =>
      cases fragment with
      | quoted content =>
          obtain ⟨arranged, unbroken⟩ := joined
          cases arranged with
          | quoted content arranged =>
              have single := arranged.head?_text
              refine ⟨content, text quote fragments, ?_, ?_⟩
              · rw [text_cons, Fragment.chars, List.cons_append, leadingPart, if_pos rfl,
                  List.append_assoc, List.singleton_append, section?_doubleChar single]
              · intro point
                cases arranged with
                | nil => cases point
                | @bare _ char rest plain arranged =>
                    obtain rfl : char = '.' := Option.some.inj point
                    refine ⟨rest, rfl, ⟨arranged, ?_⟩, Nat.lt_succ_of_lt (Nat.lt_succ_self _)⟩
                    exact fun fragment member =>
                      unbroken fragment (List.mem_cons_of_mem _ (List.mem_cons_of_mem _ member))
      | bare char =>
          obtain ⟨plain, later⟩ := joined.tail_bare
          have other : char ≠ quote := by
            intro same
            cases plain same
          rw [text_cons, Fragment.chars, List.singleton_append, leadingPart, if_neg other]
          refine ⟨_, _, rfl, fun goes => ?_⟩
          by_cases point : char = '.'
          · rw [if_pos point] at later
            exact ⟨fragments, by simp [point], later, Nat.lt_succ_self _⟩
          · rw [if_neg point] at later
            rw [List.dropWhile_cons_of_pos (by simpa using point)] at goes ⊢
            rcases continues_dropWhile later with ended | ⟨further, same, starts, fewer⟩
            · rw [ended] at goes
              cases goes
            · exact ⟨further, same, starts, Nat.lt_succ_of_lt fewer⟩

/-- No section of a word is open at its end. -/
theorem partsOf_text_ne {fragments : List Fragment} (joined : Joined quote .start fragments) :
    partsOf quote (text quote fragments) ≠ .error .unterminated := by
  induction count : fragments.length using Nat.strongRecOn generalizing fragments with
  | ind size ih =>
      subst count
      obtain ⟨part, rest, leading, continues⟩ := exists_leadingPart joined
      rw [partsOf]
      split
      · next absent =>
        rw [leading] at absent
        cases absent
      · rintro ⟨⟩
      · rintro ⟨⟩
      · next char part next rest' found =>
        obtain ⟨-, rfl⟩ := Prod.mk.inj (Option.some.inj (leading.symm.trans found))
        split
        · next point =>
          obtain ⟨later, same, starts, fewer⟩ := continues (by rw [point]; rfl)
          obtain ⟨-, rfl⟩ := List.cons.inj same
          have rested := ih later.length fewer starts rfl
          cases cut : partsOf quote (text quote later) with
          | error fault =>
              rintro ⟨⟩
              exact rested cut
          | ok parts => rintro ⟨⟩
        · rintro ⟨⟩

theorem parts_ne_of_partsOf_ne {word : String}
    (ended : partsOf quote word.toList ≠ .error .unterminated) (input : String) :
    Scanner.parts quote word ≠ .error (.unterminatedQuote input) := by
  rw [Scanner.parts]
  split
  · rintro ⟨⟩
  · next fault cut =>
    cases fault with
    | unterminated => exact absurd cut ended
    | empty => rintro ⟨⟩
    | stray char => rintro ⟨⟩

/-! ## Both scanners -/

/-- A text is arranged in one way. -/
theorem Arranged.eq_of_text {spot : Spot} {left right : List Fragment}
    (arranged : Arranged quote spot left) (arranged' : Arranged quote spot right)
    (same : text quote left = text quote right) : left = right := by
  induction arranged generalizing right with
  | nil => exact (text_eq_nil_iff.1 same.symm).symm
  | @quoted content rest arranged ih =>
      cases arranged' with
      | nil => simp [Fragment.chars] at same
      | @quoted content' rest' arranged' =>
          -- The section that is read from the text has one content and one end.
          have sections : doubleChar quote content ++ quote :: text quote rest =
              doubleChar quote content' ++ quote :: text quote rest' := by
            simpa [Fragment.chars] using same
          have read : section? quote (doubleChar quote content ++ quote :: text quote rest) =
              some (content, text quote rest) := section?_doubleChar arranged.head?_text
          rw [sections, section?_doubleChar arranged'.head?_text, Option.some.injEq,
            Prod.mk.injEq] at read
          obtain ⟨rfl, later⟩ := read
          rw [ih arranged' later.symm]
      | bare plain arranged' =>
          cases plain (List.cons.inj same).1.symm
  | bare plain arranged ih =>
      cases arranged' with
      | nil => cases same
      | quoted content arranged' => cases plain (List.cons.inj same).1
      | bare plain' arranged' =>
          obtain ⟨rfl, later⟩ := List.cons.inj same
          rw [ih arranged' later]

/-- The words of a text whose sections end are what stands between its blanks outside quotes. Each
of them is a word of its own, and the scanner of parts leaves no section of it open. -/
theorem sections_of_words (dialect : Dialect) {input : String} {found : List String}
    (cut : Scanner.words dialect.quote input = .ok found) :
    ∃ fragments,
      (∀ others, Arranged dialect.quote .start others ∧ text dialect.quote others = input.toList ↔
        others = fragments) ∧
      found.map String.toList =
        ((fragments.splitOnP Fragment.isGap).filter (· ≠ [])).map (text dialect.quote) ∧
      (String.join found).toList = text dialect.quote (fragments.filter (!·.isGap)) ∧
      ∀ word ∈ found, word ≠ "" ∧ Scanner.words dialect.quote word = .ok [word] ∧
        ∀ input, Scanner.parts dialect.quote word ≠ .error (.unterminatedQuote input) := by
  have singles := fun word (member : word ∈ found) => (single_of_words cut member).1
  rw [Scanner.words] at cut
  split at cut
  · next words read =>
    cases cut
    obtain ⟨fragments, arranged, written⟩ := exists_arranged (by simp) read
    have between : wordsBetween dialect.quote [] fragments = words := by
      rw [words?, ← written, wordsFrom_text arranged] at read
      exact Option.some.inj read
    have texts : (words.map String.ofList).map String.toList = words := by
      simp [Function.comp_def]
    refine ⟨fragments, ?_, ?_, ?_, ?_⟩
    · intro others
      constructor
      · rintro ⟨arranged', written'⟩
        exact arranged'.eq_of_text arranged (written'.trans written.symm)
      · rintro rfl
        exact ⟨arranged, written⟩
    · rw [texts, ← between, wordsBetween_eq_map]
    · rw [String.toList_join, List.flatMap_def, texts, ← between, flatten_wordsBetween]
      rfl
    · intro word member
      obtain ⟨chars, within, rfl⟩ := List.mem_map.1 member
      rw [← between, wordsBetween_eq_map] at within
      obtain ⟨run, kept, rfl⟩ := List.mem_map.1 within
      obtain ⟨among, filled⟩ := List.mem_filter.1 kept
      have joined := joined_of_mem_splitOnP arranged among
      refine ⟨?_, singles _ member, parts_ne_of_partsOf_ne ?_⟩
      · simpa [text_eq_nil_iff] using filled
      · rw [String.toList_ofList]
        exact partsOf_text_ne joined
  · cases cut

/-- Sections with a blank, a point and doubled quotes, and a quote inside of a bare name. -/
theorem sections_of_words_doubled :
    let input := " a\"b.\"c. d\"  as \"\"\"\" "
    Scanner.words Dialect.postgres.quote input = .ok ["a\"b.\"c. d\"", "as", "\"\"\"\""] ∧
      ∃ fragments, Arranged Dialect.postgres.quote .start fragments ∧
        text Dialect.postgres.quote fragments = input.toList ∧
        (String.join ["a\"b.\"c. d\"", "as", "\"\"\"\""]).toList =
          text Dialect.postgres.quote (fragments.filter (!·.isGap)) ∧
        Scanner.parts Dialect.postgres.quote "a\"b.\"c. d\"" = .ok ["a\"b", "c. d"] := by
  intro input
  have cut : Scanner.words Dialect.postgres.quote input =
      .ok ["a\"b.\"c. d\"", "as", "\"\"\"\""] := by
    decide +kernel
  obtain ⟨fragments, only, -, joined, -⟩ := sections_of_words .postgres cut
  obtain ⟨arranged, written⟩ := (only fragments).2 rfl
  exact ⟨cut, fragments, arranged, written, joined, by decide +kernel⟩

end Scanner

end SqlClient
