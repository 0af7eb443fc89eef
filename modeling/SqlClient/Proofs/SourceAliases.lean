import SqlClient.Proofs.Clauses
import SqlClient.Proofs.GivenAlias

/-!
# Aliases of sources

A table and a selection can both be read from under an alias. The alias of a table is trimmed and
taken out of its quotes before it is quoted; the alias of a selection is quoted as it was given. So
the two agree on an alias just if there is nothing to take off.
-/

namespace SqlClient

namespace Text

theorem length_trim_le (text : String) : (trim text).length ≤ text.length := by
  obtain ⟨before, after, whole, -, -⟩ := exists_trimChars text.toList
  have lengths := congrArg List.length whole
  simp only [List.length_append] at lengths
  rw [← String.length_toList, ← String.length_toList, toList_trim]
  omega

end Text

namespace Scanner

variable {quote : Char}

/-! ## Names of one part -/

/-- The content of a section and what follows it are shorter than the text. -/
theorem length_section?_lt {chars content rest : List Char}
    (found : section? quote chars = some (content, rest)) :
    (content ++ rest).length < chars.length := by
  fun_induction section? quote chars generalizing content rest with
  | case1 => cases found
  | case2 =>
      cases found
      simp
  | case3 => cases found
  | case4 tail induction =>
      obtain ⟨⟨inner, after⟩, inside, same⟩ := Option.map_eq_some_iff.1 found
      cases same
      have shorter := induction inside
      simp only [List.cons_append, List.length_cons]
      omega
  | case5 =>
      cases found
      simp
  | case6 char next tail other induction =>
      obtain ⟨⟨inner, after⟩, inside, same⟩ := Option.map_eq_some_iff.1 found
      cases same
      have shorter := induction inside
      simp only [List.cons_append, List.length_cons] at shorter ⊢
      omega

/-- The only part of a name has characters and goes up to its end. -/
theorem leadingPart_of_partsOf {chars part : List Char}
    (single : partsOf quote chars = .ok [part]) :
    part ≠ [] ∧ leadingPart quote chars = some (part, []) := by
  rw [partsOf] at single
  split at single
  · cases single
  · cases single
  · next leading =>
    cases single
    exact ⟨List.cons_ne_nil _ _, leading⟩
  · split at single
    · obtain ⟨later, cut, same⟩ := map_eq_ok.1 single
      obtain ⟨-, rfl⟩ := List.cons.inj same
      exact absurd cut partsOf_ne_nil
    · cases single

section Single

variable {text part : String}

theorem leadingPart_of_parts (single : parts quote text = .ok [part]) :
    part ≠ "" ∧ leadingPart quote text.toList = some (part.toList, []) := by
  rw [parts] at single
  split at single
  · next found cut =>
    obtain ⟨chars, rfl, rfl⟩ := List.map_eq_singleton_iff.1 (Except.ok.inj single)
    simpa using leadingPart_of_partsOf cut
  · cases single

/-- A name of one part without a quote in front is that part. -/
theorem eq_of_parts_bare (single : parts quote text = .ok [part])
    (bare : text.toList.head? ≠ some quote) : part = text := by
  obtain ⟨-, leading⟩ := leadingPart_of_parts single
  rw [← String.toList_inj]
  cases chars : text.toList with
  | nil =>
      rw [chars] at leading
      exact (Prod.mk.inj (Option.some.inj leading)).1.symm
  | cons char rest =>
      have other : char ≠ quote := by simpa [chars] using bare
      rw [chars, leadingPart, if_neg other] at leading
      obtain ⟨taken, ended⟩ := Prod.mk.inj (Option.some.inj leading)
      rw [← taken, List.takeWhile_eq_self_iff]
      exact List.dropWhile_eq_nil_iff.1 ended

/-- A quoted name is longer than its only part. -/
theorem length_lt_of_parts_quoted (single : parts quote text = .ok [part])
    (quoted : text.toList.head? = some quote) : part.length < text.length := by
  obtain ⟨rest, chars⟩ := List.head?_eq_some_iff.1 quoted
  obtain ⟨-, leading⟩ := leadingPart_of_parts single
  rw [chars, leadingPart, if_pos rfl] at leading
  have shorter := length_section?_lt leading
  rw [List.append_nil, String.length_toList] at shorter
  rw [← String.length_toList (s := text), chars, List.length_cons]
  omega

end Single

end Scanner

namespace Identifier

open Dialect

variable {dialect : Dialect} {table label : String} {reference : Identifier}

/-! ## Aliases of tables -/

/-- Aliases that are not empty are told apart by their text. -/
theorem renderAlias_inj {left right : Option String} (given : left ≠ some "")
    (given' : right ≠ some "") :
    renderAlias dialect left = renderAlias dialect right ↔ left = right := by
  refine ⟨fun same => ?_, congrArg _⟩
  have written : ∀ label, renderAlias dialect (some label) ≠ "" := by
    intro label
    simp [renderAlias]
  cases left with
  | none =>
      cases right with
      | none => rfl
      | some label => exact absurd same.symm (written label)
  | some label =>
      cases right with
      | none => exact absurd same (written label)
      | some label' =>
          have quoted : dialect.quoteName label = dialect.quoteName label' := by
            simpa [renderAlias, String.append_right_inj] using same
          have read : Scanner.parts dialect.quote (dialect.quoteName label) = .ok [label] :=
            Scanner.parts_quoteName dialect (by simpa using given)
          rw [quoted, Scanner.parts_quoteName dialect (by simpa using given')] at read
          simpa using read.symm

/-- A table under an alias that is not blank has the alias without the blanks around it, and without
its quotes unless the table is an expression. -/
theorem alias_of_protect_source (filled : Text.trim label ≠ "")
    (protects : protect dialect table (some label) true = .ok reference) :
    ∃ part, reference.alias? = some part ∧
      if isExpression (Text.trim table) then part = Text.trim label
      else Scanner.parts dialect.quote (Text.trim label) = .ok [part] := by
  rcases protect_eq_ok_iff.1 protects with expression | ⟨expression, read, form, texts⟩ |
    ⟨visible, expression, read, form, column⟩
  · rw [givenAlias?_of_filled filled]
    exact ⟨Text.trim label, alias_withAlias _ filled, by rw [if_pos expression]⟩
  · rw [givenAlias?_of_filled filled, Option.some_or] at texts
    obtain ⟨names, -, texts⟩ := bind_eq_ok.1 texts
    obtain ⟨bare, -, texts⟩ := bind_eq_ok.1 texts
    obtain ⟨parts, cut, texts⟩ := bind_eq_ok.1 texts
    split at texts
    · next part =>
      cases texts
      obtain ⟨given, -⟩ := Scanner.leadingPart_of_parts cut
      exact ⟨part, alias_withAlias _ given, by rw [expression, if_neg Bool.false_ne_true, cut]⟩
    · cases texts
  · cases column

/-- A blank alias is none. -/
theorem protect_of_blank (asSource : Bool) (blank : Text.trim label = "") :
    protect dialect table (some label) asSource = protect dialect table none asSource := by
  have absent : givenAlias? (some label) = givenAlias? none := by simp [givenAlias?, blank]
  rw [protect, absent, ← protect]

end Identifier

namespace Source

open Identifier

variable {dialect : Dialect} {table label : String} {reference : Identifier}

/-! ## Two kinds of sources -/

/-- The text of a source in front of its alias. -/
def renderBare (dialect : Dialect) : Source → Except StatementError String
  | .table identifier => .ok (identifier.renderName dialect)
  | .subquery select _ => do .ok ("(" ++ (← select.render) ++ ")")

/-- The alias of a source. -/
def alias? : Source → Option String
  | .table identifier => identifier.alias?
  | .subquery _ label? => label?

/-- The text of a source ends with its alias. -/
theorem render_eq (dialect : Dialect) (source : Source) :
    source.render dialect =
      (source.renderBare dialect).map (· ++ renderAlias dialect source.alias?) := by
  cases source with
  | table identifier => rfl
  | subquery select label? =>
      simp only [render, renderBare]
      cases select.render <;> rfl

/-- Aliases that a table and a selection are given alike. A blank one must not leave the table an
alias of its own. Any other has no blanks around it, and no quote in front unless the table is an
expression. -/
def GivenAlike (dialect : Dialect) (table label : String) : Prop :=
  if Text.trim label = "" then
    ∀ reference, protect dialect table none true = .ok reference → reference.alias? = none
  else
    Text.trim label = label ∧
      (isExpression (Text.trim table) = true ∨ label.toList.head? ≠ some dialect.quote)

/-- The alias of a table is the alias as it was given just if there is nothing to take off. -/
theorem alias_eq_given_iff (filled : Text.trim label ≠ "")
    (protects : protect dialect table (some label) true = .ok reference) :
    reference.alias? = some label ↔
      Text.trim label = label ∧
        (isExpression (Text.trim table) = true ∨ label.toList.head? ≠ some dialect.quote) := by
  obtain ⟨part, labelled, cut⟩ := alias_of_protect_source filled protects
  rw [labelled, Option.some.injEq]
  split at cut
  · next expression =>
    rw [cut]
    exact ⟨fun same => ⟨same, .inl expression⟩, And.left⟩
  · next expression =>
    constructor
    · rintro rfl
      -- A quoted alias is longer than its part, and so is not its own part.
      have bare : (Text.trim part).toList.head? ≠ some dialect.quote := by
        intro quoted
        have shorter := Scanner.length_lt_of_parts_quoted cut quoted
        exact absurd (Text.length_trim_le part) (by omega)
      have same : Text.trim part = part := (Scanner.eq_of_parts_bare cut bare).symm
      exact ⟨same, .inr (same ▸ bare)⟩
    · rintro ⟨same, called | bare⟩
      · exact absurd called expression
      · rw [same] at cut
        exact Scanner.eq_of_parts_bare cut bare

/-- The alias that a selection keeps: the given one, unless it is blank. -/
def keptAlias? (label : String) : Option String :=
  if Text.trim label = "" then none else some label

theorem keptAlias?_eq_alias?_iff
    (protects : protect dialect table (some label) true = .ok reference) :
    keptAlias? label = reference.alias? ↔ GivenAlike dialect table label := by
  rw [keptAlias?, GivenAlike]
  by_cases blank : Text.trim label = ""
  · rw [protect_of_blank true blank] at protects
    rw [if_pos blank, if_pos blank, protects]
    simp [eq_comm]
  · rw [if_neg blank, if_neg blank, eq_comm]
    exact alias_eq_given_iff blank protects

end Source

namespace Select

open Identifier

theorem addTable_eq_ok {select named : Select} {table : String} {label? : Option String}
    (accepted : select.addTable table label? = .ok named) :
    ∃ reference, protect select.dialect table label? true = .ok reference ∧
      named = { select with sources := select.sources ++ [.table reference] } := by
  obtain ⟨reference, protects, added⟩ := bind_eq_ok.1 accepted
  cases added
  exact ⟨reference, refuse_eq_ok.1 protects, rfl⟩

theorem addSelect_of_same {select inner : Select} (same : inner.dialect = select.dialect)
    (label : String) :
    select.addSelect inner (some label) = .ok { select with
      sources := select.sources ++ [.subquery inner (Source.keptAlias? label)] } := by
  rw [addSelect, if_neg (not_not_intro same), Source.keptAlias?, Option.filter_some]
  by_cases blank : Text.trim label = ""
  · rw [if_pos blank, (trim_eq_empty label).1 blank]
    rfl
  · rw [if_neg blank, eq_false_of_ne_true (mt (trim_eq_empty label).2 blank)]
    rfl

/-- A source ends with its alias. A table and a selection that are added under one alias end with
the same text just if the alias is given to both alike. -/
theorem renderAlias_eq_iff_of_addTable (select inner : Select) (table label : String)
    (same : inner.dialect = select.dialect) {named : Select}
    (accepted : select.addTable table (some label) = .ok named) :
    ∃ reference : Identifier,
      let tabled := Source.table reference
      let nested := Source.subquery inner (Source.keptAlias? label)
      named = { select with sources := select.sources ++ [tabled] } ∧
      select.addSelect inner (some label) =
        .ok { select with sources := select.sources ++ [nested] } ∧
      (∀ source : Source, source.render select.dialect =
        (source.renderBare select.dialect).map (· ++ renderAlias select.dialect source.alias?)) ∧
      (renderAlias select.dialect nested.alias? = renderAlias select.dialect tabled.alias? ↔
        Source.GivenAlike select.dialect table label) := by
  obtain ⟨reference, protects, rfl⟩ := addTable_eq_ok accepted
  refine ⟨reference, rfl, addSelect_of_same same label, Source.render_eq select.dialect, ?_⟩
  have given : Source.keptAlias? label ≠ some "" := by
    rw [Source.keptAlias?]
    split
    · simp
    · next filled =>
      intro empty
      rw [Option.some.inj empty] at filled
      exact filled rfl
  rw [Source.alias?, Source.alias?, renderAlias_inj given reference.alias_ne]
  exact Source.keptAlias?_eq_alias?_iff protects

/-- An alias with a blank inside, beside a table that has an alias of its own. -/
theorem renderAlias_eq_of_addTable_blank_inside :
    let select := empty .postgres
    let label := "my table"
    ∃ orders named nested, select.addTable "orders" none = .ok orders ∧
      orders.dialect = select.dialect ∧
      select.addTable "users u" (some label) = .ok named ∧
      select.addSelect orders (some label) = .ok nested ∧
      named.render = .ok "SELECT * FROM \"users\" AS \"my table\"" ∧
      nested.render = .ok "SELECT * FROM (SELECT * FROM \"orders\") AS \"my table\"" ∧
      Source.GivenAlike .postgres "users u" label ∧
      ∃ reference : Identifier, named.sources = [.table reference] ∧
        renderAlias .postgres (Source.keptAlias? label) =
          renderAlias .postgres reference.alias? := by
  intro select label
  have done : (select.addTable "orders" none >>= fun orders => do
      let named ← select.addTable "users u" (some label)
      let nested ← select.addSelect orders (some label)
      .ok (orders.dialect, ← named.render, ← nested.render)) =
      .ok (.postgres, "SELECT * FROM \"users\" AS \"my table\"",
        "SELECT * FROM (SELECT * FROM \"orders\") AS \"my table\"") := by
    decide +kernel
  simp only [bind_eq_ok, Except.ok.injEq, Prod.mk.injEq] at done
  obtain ⟨orders, single, named, accepted, nested, added, text, rendered, text', rendered',
    same, rfl, rfl⟩ := done
  have alike : Source.GivenAlike .postgres "users u" label := by
    rw [Source.GivenAlike, if_neg (by decide)]
    exact ⟨by decide, .inr (by decide)⟩
  obtain ⟨reference, rfl, -, -, agrees⟩ :=
    renderAlias_eq_iff_of_addTable select orders "users u" label same accepted
  have written := agrees.2 alike
  rw [Source.alias?, Source.alias?] at written
  exact ⟨orders, _, nested, single, same, accepted, added, rendered, rendered', alike, reference,
    rfl, written⟩

/-- Blanks around an alias are taken off for a table and stay for a selection. -/
theorem selection_keeps_alias_blanks :
    let select := empty .postgres
    (select.addTable "users" (some " u ") >>= render) = .ok "SELECT * FROM \"users\" AS \"u\"" ∧
      (select.addTable "orders" none >>= fun orders =>
          select.addSelect orders (some " u ") >>= render) =
        .ok "SELECT * FROM (SELECT * FROM \"orders\") AS \" u \"" ∧
      (select.addTable "orders" none >>= fun orders => do
          let both ← (← select.addTable "users" (some " u ")).addSelect orders (some " u ")
          both.render) =
        .ok "SELECT * FROM \"users\" AS \"u\", (SELECT * FROM \"orders\") AS \" u \"" ∧
      ¬Source.GivenAlike .postgres "users" " u " := by
  intro select
  refine ⟨by decide +kernel, by decide +kernel, by decide +kernel, ?_⟩
  rw [Source.GivenAlike, if_neg (by decide)]
  exact fun alike => absurd alike.1 (by decide)

end Select

end SqlClient
