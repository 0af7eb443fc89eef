import SqlClient.Proofs.Protection

/-!
# Given aliases

An alias can stand in a name or be given beside it. The given one wins, over an alias in the name
and over one that could not be read, on every name but those that are kept as an expression for the
words that they have: there it is lost. An alias never changes what is named.
-/

namespace SqlClient

namespace Identifier

open Dialect

/-! ## Names with an alias -/

@[simp] theorem name_withAlias (identifier : Identifier) (label : String) :
    (identifier.withAlias label).name = identifier.name := by
  unfold withAlias
  split <;> rfl

theorem alias_withAlias (identifier : Identifier) {label : String} (given : label ≠ "") :
    (identifier.withAlias label).alias? = some label := by
  rw [withAlias_eq identifier given]

section Texts

variable {quote : Char} {base label : String} {identifier : Identifier}

/-- What is named is read from the name alone. -/
theorem name_of_ofTexts {label? : Option String} (read : ofTexts quote base label? = .ok identifier) :
    ∃ bare, ofTexts quote base none = .ok bare ∧ identifier.name = bare.name := by
  obtain ⟨parts, cut, read⟩ := bind_eq_ok.1 read
  obtain ⟨bare, named, read⟩ := bind_eq_ok.1 read
  refine ⟨bare, bind_eq_ok.2 ⟨parts, cut, bind_eq_ok.2 ⟨bare, named, rfl⟩⟩, ?_⟩
  cases label? with
  | none =>
      cases read
      rfl
  | some label =>
      obtain ⟨labels, -, read⟩ := bind_eq_ok.1 read
      split at read
      · cases read
        exact name_withAlias bare _
      · cases read

theorem ofTexts_of_part (single : Scanner.parts quote label = .ok [label]) :
    ofTexts quote base (some label) = (ofTexts quote base none).map (·.withAlias label) := by
  simp only [ofTexts, single, bind, Except.bind]
  cases Scanner.parts quote base with
  | error cause => rfl
  | ok parts => cases read : ofParts parts <;> simp [read, Except.map]

end Texts

/-! ## What a name is read as -/

/-- The references that a name may be read as beside an alias that is given. -/
inductive ReadAs (dialect : Dialect) (label? : Option String) (asSource : Bool) (name : String) :
    Identifier → Prop where
  /-- An expression with a parenthesis, under the given alias. -/
  | called (expression : isExpression (Text.trim name) = true) :
      ReadAs dialect label? asSource name
        ((raw (Text.trim name)).withAlias ((givenAlias? label?).getD ""))
  /-- A plain reference, under the given alias or else its own. -/
  | plain {found : List String} {base : String} {inline? : Option String} {identifier : Identifier}
      (expression : isExpression (Text.trim name) = false)
      (read : Scanner.words dialect.quote (Text.trim name) = .ok found)
      (form : plainWords? found = some (base, inline?))
      (texts : ofTexts dialect.quote base ((givenAlias? label?).or inline?) = .ok identifier) :
      ReadAs dialect label? asSource name identifier
  /-- An expression of several words, under no alias. -/
  | kept {found : List String} (filled : Text.trim name ≠ "")
      (expression : isExpression (Text.trim name) = false)
      (read : Scanner.words dialect.quote (Text.trim name) = .ok found)
      (form : plainWords? found = none) (column : asSource = false) :
      ReadAs dialect label? asSource name (raw (Text.trim name))

variable {dialect : Dialect} {name label : String} {label? : Option String} {asSource : Bool}
  {identifier : Identifier}

theorem protect_eq_ok_iff :
    protect dialect name label? asSource = .ok identifier ↔
      ReadAs dialect label? asSource name identifier := by
  rw [protect]
  constructor
  · intro protects
    split at protects
    · cases protects
    · next filled =>
      split at protects
      · next expression =>
        cases protects
        exact .called expression
      · next expression =>
        rw [Bool.not_eq_true] at expression
        obtain ⟨found, read, protects⟩ := bind_eq_ok.1 protects
        split at protects
        · next form => exact .plain expression read form protects
        · next form =>
          split at protects
          · cases protects
          · next column =>
            cases protects
            exact .kept filled expression read form (by simpa using column)
  · rintro (expression | ⟨expression, read, form, texts⟩ |
      ⟨filled, expression, read, form, column⟩)
    · have filled : Text.trim name ≠ "" := by
        intro empty
        rw [empty] at expression
        cases expression
      rw [if_neg filled, if_pos expression]
    · have filled : Text.trim name ≠ "" := by
        intro empty
        rw [empty] at read
        cases read
        cases form
      rw [if_neg filled, if_neg (by simp [expression])]
      exact bind_eq_ok.2 ⟨_, read, by simp only [form, texts]⟩
    · rw [if_neg filled, if_neg (by simp [expression])]
      exact bind_eq_ok.2 ⟨_, read, by simp [form, column]⟩

/-- A name that is no plain reference and holds no parenthesis. -/
def Irregular (dialect : Dialect) (name : String) : Prop :=
  isExpression (Text.trim name) = false ∧
    ∃ found, Scanner.words dialect.quote (Text.trim name) = .ok found ∧ plainWords? found = none

theorem givenAlias?_of_filled (filled : Text.trim label ≠ "") :
    givenAlias? (some label) = some (Text.trim label) := by
  simp [givenAlias?, filled]

/-- An alias that is one part and given beside a name neither refuses the name nor changes what is
named. It is the alias of the reference and stands at the end of its text, whatever alias is in the
name, just if the name is not irregular; an irregular name is kept without it. -/
theorem alias_of_protect (dialect : Dialect) (name label : String) (asSource : Bool)
    (filled : Text.trim label ≠ "") (point : '.' ∉ (Text.trim label).toList)
    (quoted : dialect.quote ∉ (Text.trim label).toList) :
    (∀ bare, protect dialect name none asSource = .ok bare →
      ∃ identifier, protect dialect name (some label) asSource = .ok identifier ∧
        identifier.name = bare.name) ∧
    ∀ identifier, protect dialect name (some label) asSource = .ok identifier →
      (¬Irregular dialect name → identifier.alias? = some (Text.trim label) ∧
        identifier.render dialect =
          identifier.renderName dialect ++ " AS " ++ dialect.quoteName (Text.trim label)) ∧
      (Irregular dialect name → asSource = false ∧ identifier = raw (Text.trim name)) := by
  have given := givenAlias?_of_filled filled
  have single := Scanner.parts_of_absent filled point quoted
  constructor
  · intro bare protects
    rcases protect_eq_ok_iff.1 protects with expression | ⟨expression, read, form, texts⟩ |
      ⟨visible, expression, read, form, column⟩
    · exact ⟨_, protect_eq_ok_iff.2 (.called expression), by simp⟩
    · obtain ⟨unlabelled, alone, same⟩ := name_of_ofTexts texts
      refine ⟨unlabelled.withAlias (Text.trim label),
        protect_eq_ok_iff.2 (.plain expression read form ?_), by simp [same]⟩
      rw [given, Option.some_or, ofTexts_of_part single, alone]
      rfl
    · exact ⟨_, protect_eq_ok_iff.2 (.kept visible expression read form column), rfl⟩
  · intro identifier protects
    have labelled : ∀ unlabelled : Identifier,
        (unlabelled.withAlias (Text.trim label)).alias? = some (Text.trim label) :=
      fun unlabelled => alias_withAlias unlabelled filled
    have reaches : (identifier.alias? = some (Text.trim label) ∧ ¬Irregular dialect name) ∨
        (asSource = false ∧ identifier = raw (Text.trim name) ∧ Irregular dialect name) := by
      rcases protect_eq_ok_iff.1 protects with expression | ⟨expression, read, form, texts⟩ |
        ⟨visible, expression, read, form, column⟩
      · refine .inl ⟨?_, fun irregular => by simp [irregular.1] at expression⟩
        rw [given]
        exact labelled (raw (Text.trim name))
      · rw [given, Option.some_or, ofTexts_of_part single] at texts
        obtain ⟨unlabelled, -, rfl⟩ := map_eq_ok.1 texts
        refine .inl ⟨labelled unlabelled, ?_⟩
        rintro ⟨-, found, again, other⟩
        obtain rfl := Except.ok.inj (read.symm.trans again)
        rw [form] at other
        cases other
      · exact .inr ⟨column, rfl, expression, _, read, form⟩
    rcases reaches with ⟨won, regular⟩ | ⟨column, kept, irregular⟩
    · refine ⟨fun _ => ⟨won, ?_⟩, fun irregular => absurd irregular regular⟩
      rw [render, won, renderAlias, String.append_assoc]
    · exact ⟨fun regular => absurd irregular regular, fun _ => ⟨column, kept⟩⟩

/-- An alias that is given with blanks around it, beside a name that has one of several parts. -/
theorem alias_of_protect_compound :
    let name := " users  as  a.b "
    let label := " my table "
    let path : Path := ⟨["users"], by decide, by decide⟩
    let identifier : Identifier := { name := .path path, alias? := some "my table" }
    Text.trim label ≠ "" ∧ '.' ∉ (Text.trim label).toList ∧
      Dialect.postgres.quote ∉ (Text.trim label).toList ∧ ¬Irregular .postgres name ∧
      protect .postgres name none true = .error (.compoundAlias "a.b") ∧
      protect .postgres name (some label) true = .ok identifier ∧
      identifier.alias? = some (Text.trim label) ∧
      identifier.render .postgres =
        identifier.renderName .postgres ++ " AS " ++ Dialect.postgres.quoteName (Text.trim label) ∧
      identifier.render .postgres = "\"users\" AS \"my table\"" := by
  intro name label path identifier
  have filled : Text.trim label ≠ "" := by decide
  have point : '.' ∉ (Text.trim label).toList := by decide
  have quoted : Dialect.postgres.quote ∉ (Text.trim label).toList := by decide
  have regular : ¬Irregular .postgres name := by
    rintro ⟨-, found, read, form⟩
    have words : Scanner.words Dialect.postgres.quote (Text.trim name) =
        .ok ["users", "as", "a.b"] := by decide +kernel
    obtain rfl := Except.ok.inj (words.symm.trans read)
    exact absurd form (by decide)
  have protects : protect .postgres name (some label) true = .ok identifier := by decide +kernel
  have labelled := (alias_of_protect .postgres name label true filled point quoted).2 identifier
    protects
  obtain ⟨won, written⟩ := labelled.1 regular
  exact ⟨filled, point, quoted, regular, by decide +kernel, protects, won, written,
    by decide +kernel⟩

/-- A calculation is kept without the alias that is given beside it, and a call is not. -/
theorem given_alias_lost :
    protect .postgres "price * 2" (some "total") false = .ok (raw "price * 2") ∧
      (raw "price * 2").alias? = none ∧ (raw "price * 2").render .postgres = "price * 2" ∧
      ∃ identifier, protect .postgres "(price * 2)" (some "total") false = .ok identifier ∧
        identifier.alias? = some "total" ∧
        identifier.render .postgres = "(price * 2) AS \"total\"" := by
  refine ⟨by decide +kernel, by decide, by decide, (raw "(price * 2)").withAlias "total", ?_⟩
  decide +kernel

end Identifier

end SqlClient
