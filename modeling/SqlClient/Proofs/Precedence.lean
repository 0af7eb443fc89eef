import Mathlib.Data.List.TakeWhile
import SqlClient.Proofs.Accumulation
import SqlClient.Proofs.Reading

/-!
# Precedence of conditions

The text of a condition read as a database reads it, against the truth of the tree it was written
from. Parentheses stand around groups of two and more members, so that the only connective that can
meet those of a group is one in a verbatim text. Where no verbatim text with an OR outside its
brackets is a member of a conjunction, the text has the truth of the tree; where one is, it need
not.
-/

namespace SqlClient

open Reading

mutual

/-- The truth of a condition when texts without connectives have the given truth. A group joins
those of its members that render to something. -/
def Condition.holds (dialect : Dialect) (truth : List Token → Bool) : Condition → Bool
  | .raw sql => value truth (tokens dialect (Text.trim sql))
  | .group connective members => connective.joins (Condition.meanings dialect truth members)
  | .leaf column operator operand =>
      truth (tokens dialect (shown (Condition.render dialect (.leaf column operator operand))))

/-- The truth of each condition that renders to something. -/
def Condition.meanings (dialect : Dialect) (truth : List Token → Bool) :
    List Condition → List Bool
  | [] => []
  | member :: rest =>
      if member.isEmpty then Condition.meanings dialect truth rest
      else Condition.holds dialect truth member :: Condition.meanings dialect truth rest

end

/-! ## Conditions that can be read -/

/-- A column text that names a column, or an expression without connectives of its own. -/
def SolidColumn (dialect : Dialect) (column : String) : Prop :=
  namesColumn dialect column = true ∨ Solid dialect (Text.trim column)

/-- A scalar, or text without connectives of its own. -/
def Expr.Complete (dialect : Dialect) : Expr → Prop
  | .scalar _ => True
  | .verbatim sql => Solid dialect sql

mutual

/-- A condition whose verbatim texts close the quotes, comments and brackets they open, and whose
comparisons have no connectives of their own. -/
def Condition.Complete (dialect : Dialect) : Condition → Prop
  | .raw sql => Whole dialect (Text.trim sql)
  | .group _ members => Condition.AllComplete dialect members
  | .leaf column _ operand => SolidColumn dialect column ∧ Operand.Complete dialect operand

def Condition.AllComplete (dialect : Dialect) : List Condition → Prop
  | [] => True
  | member :: rest => Condition.Complete dialect member ∧ Condition.AllComplete dialect rest

def Operand.Complete (dialect : Dialect) : Operand → Prop
  | .none => True
  | .value expr => expr.Complete dialect
  | .list exprs => ∀ expr ∈ exprs, expr.Complete dialect
  | .column other => SolidColumn dialect other
  | .subquery select => ∀ text, Select.render select = .ok text → Whole dialect text
  | .nested condition => Condition.Complete dialect condition

end

/-- The number of conditions that render to something. -/
def Condition.countFilled (members : List Condition) : Nat :=
  members.countP fun member => !member.isEmpty

mutual

/-- A condition whose text has no OR outside brackets: only a verbatim text can bring one, also as
the only member of a group. -/
def Condition.Tight (dialect : Dialect) : Condition → Prop
  | .raw sql => Uncut .or [] (tokens dialect (Text.trim sql))
  | .group _ members => Condition.countFilled members = 1 → Condition.AllTight dialect members
  | .leaf _ _ _ => True

def Condition.AllTight (dialect : Dialect) : List Condition → Prop
  | [] => True
  | member :: rest => Condition.Tight dialect member ∧ Condition.AllTight dialect rest

end

mutual

/-- A condition in which no verbatim text with an OR outside brackets meets an AND. -/
def Condition.Guarded (dialect : Dialect) : Condition → Prop
  | .raw _ => True
  | .leaf _ _ _ => True
  | .group connective members =>
      Condition.AllGuarded dialect members ∧
        (connective = .and → 2 ≤ Condition.countFilled members →
          Condition.AllTight dialect members)

def Condition.AllGuarded (dialect : Dialect) : List Condition → Prop
  | [] => True
  | member :: rest => Condition.Guarded dialect member ∧ Condition.AllGuarded dialect rest

end

variable {dialect : Dialect}

/-! ## Members in one text -/

/-- Parentheses stand around the joined texts of two and more members. -/
theorem tokens_joinMembers {connective : Connective} {texts : List String}
    (several : 2 ≤ texts.length) (whole : ∀ text ∈ texts, Whole dialect text) :
    tokens dialect (joinMembers connective texts) =
        enclosed (joined connective (texts.map (tokens dialect))) ∧
      Solid dialect (joinMembers connective texts) := by
  match texts with
  | [] => contradiction
  | [_] => contradiction
  | first :: second :: rest =>
      have inner : Whole dialect (connective.sql.intercalate (first :: second :: rest)) :=
        whole_intercalate whole
      obtain ⟨written, solid⟩ := parenthesised inner
      rw [(tokens_intercalate whole).2] at written
      exact ⟨written, solid⟩

theorem whole_joinMembers {connective : Connective} {texts : List String}
    (whole : ∀ text ∈ texts, Whole dialect text) :
    Whole dialect (joinMembers connective texts) := by
  match texts with
  | [] => exact ⟨rfl, rfl⟩
  | [text] => exact whole text List.mem_cons_self
  | first :: second :: rest => exact (tokens_joinMembers (by simp) whole).2.1

theorem uncut_joinMembers {connective : Connective} {texts : List String}
    (whole : ∀ text ∈ texts, Whole dialect text)
    (uncut : texts.length = 1 → ∀ text ∈ texts, Uncut .or [] (tokens dialect text)) :
    Uncut .or [] (tokens dialect (joinMembers connective texts)) := by
  match texts with
  | [] => rfl
  | [text] => exact uncut rfl text List.mem_cons_self
  | first :: second :: rest => exact (tokens_joinMembers (by simp) whole).2.uncut .or

/-- The text of members has their joined truth, if none has an OR outside brackets that meets an
AND. -/
theorem value_joinMembers {connective : Connective} {texts : List String}
    (truth : List Token → Bool) (filled : texts ≠ [])
    (whole : ∀ text ∈ texts, Whole dialect text)
    (uncut : connective = .and → 2 ≤ texts.length →
      ∀ text ∈ texts, Uncut .or [] (tokens dialect text)) :
    value truth (tokens dialect (joinMembers connective texts)) =
      connective.joins (texts.map fun text => value truth (tokens dialect text)) := by
  match texts with
  | [] => contradiction
  | [text] => cases connective <;> simp [joinMembers, Connective.joins]
  | first :: second :: rest =>
      have several : 2 ≤ (first :: second :: rest).length := by simp
      generalize first :: second :: rest = texts at *
      have parts : ∀ part ∈ texts.map (tokens dialect), Paired part := by
        intro part member
        obtain ⟨text, inTexts, rfl⟩ := List.mem_map.1 member
        exact (whole text inTexts).2
      have filledParts : texts.map (tokens dialect) ≠ [] := by simpa using filled
      rw [(tokens_joinMembers several whole).1, value_enclosed (paired_joined parts)]
      cases connective with
      | or =>
          rw [value_joined_or filledParts parts]
          simp [Connective.joins, Function.comp_def]
      | and =>
          rw [value_joined_and filledParts parts ?_]
          · simp [Connective.joins, Function.comp_def]
          · intro part member
            obtain ⟨text, inTexts, rfl⟩ := List.mem_map.1 member
            exact uncut rfl several text inTexts

/-! ## Comparisons -/

theorem inert_of_namesColumn {column text : String} (names : namesColumn dialect column = true)
    (found : Identifier.protectedText dialect column = .ok text) : Inert dialect text := by
  obtain ⟨identifier, plain, written⟩ := protectedText_of_namesColumn names
  obtain rfl : identifier.render dialect = text := Except.ok.inj (written.symm.trans found)
  exact inert_identifier dialect plain

theorem isRaw_ofTexts {quote : Char} {base : String} {label? : Option String}
    {identifier : Identifier} (read : Identifier.ofTexts quote base label? = .ok identifier) :
    identifier.isRaw = false := by
  simp only [Identifier.ofTexts, Identifier.ofParts, bind_eq_ok, map_eq_ok] at read
  obtain ⟨parts, -, named, ⟨path, -, rfl⟩, labelled⟩ := read
  split at labelled
  · obtain rfl := Except.ok.inj labelled
    rfl
  · next label =>
    obtain ⟨words, -, labelled⟩ := bind_eq_ok.1 labelled
    split at labelled
    · next part =>
      obtain rfl := Except.ok.inj labelled
      unfold Identifier.withAlias
      split <;> rfl
    · contradiction

/-- A column text that names no column is kept as it is. -/
theorem protectedText_eq_trim {column text : String}
    (expression : namesColumn dialect column = false)
    (found : Identifier.protectedText dialect column = .ok text) : text = Text.trim column := by
  unfold Identifier.protectedText at found
  obtain ⟨identifier, written, rfl⟩ := map_eq_ok.1 found
  have raw : identifier.isRaw = true := by simpa [namesColumn, written] using expression
  unfold Identifier.protect at written
  dsimp only at written
  split at written
  · cases written
  · split at written
    · obtain rfl := Except.ok.inj written
      simp [Identifier.givenAlias?, Identifier.withAlias, Identifier.raw, Identifier.render,
        Identifier.renderName, Identifier.renderAlias]
    · obtain ⟨words, -, written⟩ := bind_eq_ok.1 written
      split at written
      · exact absurd (isRaw_ofTexts written) (by simp [raw])
      · obtain rfl := Except.ok.inj written
        simp [Identifier.raw, Identifier.render, Identifier.renderName, Identifier.renderAlias]

theorem solid_column {column text : String} (solid : SolidColumn dialect column)
    (found : refuse (Identifier.protectedText dialect column) = .ok text) :
    Solid dialect text := by
  have given := refuse_eq_ok.1 found
  cases names : namesColumn dialect column with
  | true => exact solid_of_inert (inert_of_namesColumn names given)
  | false =>
      rw [protectedText_eq_trim names given]
      exact solid.resolve_left (by simp [names])

theorem solid_expr {expr : Expr} (complete : expr.Complete dialect) :
    Solid dialect (expr.render dialect) := by
  cases expr with
  | scalar value => exact solid_of_inert (inert_literal dialect value)
  | verbatim sql => exact complete

/-- A text that begins with a token that is neither a bracket nor a connective. -/
def BeginsPlain (dialect : Dialect) (text : String) : Prop :=
  (tokens dialect text).head?.any Token.isPlain = true

theorem inert_operator (dialect : Dialect) (operator : Operator) :
    Inert dialect operator.sql := by
  cases dialect <;> cases operator <;> decide

theorem beginsPlain_operator (dialect : Dialect) (operator : Operator) :
    BeginsPlain dialect operator.sql := by
  unfold BeginsPlain
  cases dialect <;> cases operator <;> decide

/-- A text without connectives of its own behind an operator. -/
theorem solid_compared {text : String} (operator : Operator) (solid : Solid dialect text) :
    Solid dialect (operator.sql ++ " " ++ text) ∧
      BeginsPlain dialect (operator.sql ++ " " ++ text) := by
  obtain ⟨written, joined⟩ := (solid_of_inert (inert_operator dialect operator)).spaced solid
  refine ⟨joined, ?_⟩
  have begins := beginsPlain_operator dialect operator
  rw [BeginsPlain, written]
  unfold BeginsPlain at begins
  cases first : tokens dialect operator.sql with
  | nil => simp [first] at begins
  | cons token rest => simpa [first] using begins

/-- A whole text in parentheses behind an operator. -/
theorem solid_bracketed {text : String} (operator : Operator) (whole : Whole dialect text) :
    Solid dialect (operator.sql ++ " (" ++ text ++ ")") ∧
      BeginsPlain dialect (operator.sql ++ " (" ++ text ++ ")") := by
  have written : operator.sql ++ " (" ++ text ++ ")" =
      operator.sql ++ " " ++ ("(" ++ text ++ ")") := by
    rw [← String.toList_inj]
    simp
  rw [written]
  exact solid_compared operator (parenthesised whole).2

/-- Brackets that are closed do not enclose what follows them. -/
theorem unwrap?_append {left right : List Token} (paired : Paired left)
    (begins : right.head?.any Token.isPlain = true) : unwrap? (left ++ right) = none := by
  obtain ⟨chars, rest, rfl⟩ : ∃ chars rest, right = .plain chars :: rest := by
    match right, begins with
    | .plain chars :: rest, _ => exact ⟨chars, rest, rfl⟩
  cases left with
  | nil => rfl
  | cons token others =>
      by_cases opens : token = .opening .paren
      · subst opens
        rw [List.cons_append, unwrap?, if_neg]
        rintro ⟨-, within⟩
        rw [List.dropLast_append_of_ne_nil (by simp), Paired, nestAll_append,
          Option.bind_eq_some_iff] at within
        obtain ⟨stack, nested, -⟩ := within
        -- Behind the first parenthesis the others are paired, so that they leave that one open.
        have inside : nestAll [.paren] others = some (stack ++ [.paren]) :=
          nestAll_of_append [] nested
        have closed : nestAll [.paren] others = some [] := paired
        rw [inside] at closed
        simp at closed
      · simp [unwrap?, opens]

/-- A comparison has no connectives and no enclosing parentheses. -/
theorem atom_leaf {column left right : String} (solid : SolidColumn dialect column)
    (named : refuse (Identifier.protectedText dialect column) = .ok left)
    (compared : Solid dialect right ∧ BeginsPlain dialect right) :
    Solid dialect (left ++ " " ++ right) ∧
      unwrap? (tokens dialect (left ++ " " ++ right)) = none := by
  obtain ⟨written, joined⟩ := (solid_column solid named).spaced compared.1
  refine ⟨joined, ?_⟩
  rw [written]
  exact unwrap?_append (solid_column solid named).1.2 compared.2

/-! ## Trees -/

mutual

/-- A rendered condition closes what it opens. -/
theorem Condition.whole_render {text : String} : (condition : Condition) →
    condition.Complete dialect → condition.render dialect = .ok text → Whole dialect text
  | .raw sql, complete, rendered => by
      simp only [Condition.render, Except.ok.injEq] at rendered
      rw [← rendered]
      exact complete
  | .group connective members, complete, rendered => by
      simp only [Condition.render, bind_eq_ok, Except.ok.injEq] at rendered
      obtain ⟨texts, each, rfl⟩ := rendered
      apply whole_joinMembers
      intro text member
      exact Condition.whole_renderAll members complete each text (List.mem_filter.1 member).1
  | .leaf column operator operand, complete, rendered => by
      simp only [Condition.render, bind_eq_ok, Except.ok.injEq] at rendered
      obtain ⟨left, named, right, compared, rfl⟩ := rendered
      exact (atom_leaf complete.1 named (Operand.solid_render operand complete.2 compared)).1.1

theorem Condition.whole_renderAll {texts : List String} : (members : List Condition) →
    Condition.AllComplete dialect members → Condition.renderAll dialect members = .ok texts →
      ∀ text ∈ texts, Whole dialect text
  | [], _, rendered => by
      simp only [Condition.renderAll, Except.ok.injEq] at rendered
      simp [← rendered]
  | member :: rest, complete, rendered => by
      simp only [Condition.renderAll, bind_eq_ok, Except.ok.injEq] at rendered
      obtain ⟨first, written, others, remaining, rfl⟩ := rendered
      intro text inTexts
      rcases List.mem_cons.1 inTexts with rfl | later
      · exact Condition.whole_render member complete.1 written
      · exact Condition.whole_renderAll rest complete.2 remaining text later

/-- An operator and its right-hand side have no connectives of their own. -/
theorem Operand.solid_render {column text : String} {operator : Operator} :
    (operand : Operand) → operand.Complete dialect →
      operand.render dialect column operator = .ok text →
        Solid dialect text ∧ BeginsPlain dialect text
  | .none, _, rendered => by
      simp only [Operand.render, Except.ok.injEq] at rendered
      rw [← rendered]
      exact ⟨solid_of_inert (inert_operator dialect operator),
        beginsPlain_operator dialect operator⟩
  | .value expr, complete, rendered => by
      by_cases absent : expr = .scalar .null
      · subst absent
        simp only [Operand.render] at rendered
        split at rendered
        · next test tested =>
          obtain rfl := Except.ok.inj rendered
          exact ⟨solid_of_inert (inert_operator dialect test), beginsPlain_operator dialect test⟩
        · contradiction
      · rw [Operand.render_value absent, Except.ok.injEq] at rendered
        rw [← rendered]
        exact solid_compared operator (solid_expr complete)
  | .list [], _, rendered => by simp [Operand.render] at rendered
  | .list (expr :: exprs), complete, rendered => by
      simp only [Operand.render, Except.ok.injEq] at rendered
      rw [← rendered]
      apply solid_bracketed operator
      refine (solid_commaList ?_).1
      intro text member
      obtain ⟨item, inExprs, rfl⟩ := List.mem_map.1 member
      exact solid_expr (complete item inExprs)
  | .column other, complete, rendered => by
      simp only [Operand.render, bind_eq_ok, Except.ok.injEq] at rendered
      obtain ⟨right, named, rfl⟩ := rendered
      exact solid_compared operator (solid_column complete named)
  | .subquery select, complete, rendered => by
      simp only [Operand.render] at rendered
      split at rendered
      · contradiction
      · simp only [bind_eq_ok, Except.ok.injEq] at rendered
        obtain ⟨inner, selected, rfl⟩ := rendered
        exact solid_bracketed operator (complete inner selected)
  | .nested condition, complete, rendered => by
      simp only [Operand.render, bind_eq_ok, Except.ok.injEq] at rendered
      obtain ⟨inner, nested, rfl⟩ := rendered
      exact solid_bracketed operator (Condition.whole_render condition complete nested)

end

/-! ## Empty conditions -/

theorem trim_eq_empty (sql : String) : Text.trim sql = "" ↔ Text.isAllBlank sql = true := by
  rw [← String.toList_eq_nil_iff, Text.toList_trim, Text.trimChars, List.reverse_eq_nil_iff,
    List.dropWhile_eq_nil_iff, Text.isAllBlank, List.all_eq_true]
  constructor
  · intro blank
    rw [← List.dropWhile_eq_nil_iff]
    by_contra filled
    have first := List.head_dropWhile_not Text.isBlank filled
    rw [blank _ (List.mem_reverse.2 (List.head_mem filled))] at first
    contradiction
  · intro blank
    rw [List.dropWhile_eq_nil_iff.2 blank]
    simp

theorem countFilled_eq_zero (members : List Condition) :
    Condition.countFilled members = 0 ↔ Condition.allEmpty members = true := by
  induction members with
  | nil => simp [Condition.countFilled, Condition.allEmpty]
  | cons member rest ih =>
      unfold Condition.countFilled at ih
      by_cases empty : member.isEmpty = true <;>
        simp [Condition.countFilled, Condition.allEmpty, empty, ih]

theorem joinMembers_eq_empty {connective : Connective} {texts : List String}
    (filled : ∀ text ∈ texts, text ≠ "") : joinMembers connective texts = "" ↔ texts = [] := by
  match texts with
  | [] => simp [joinMembers]
  | [text] => simpa [joinMembers] using filled text List.mem_cons_self
  | first :: second :: rest => simp [joinMembers]

mutual

/-- A condition renders to nothing exactly when it is empty. -/
theorem Condition.render_eq_empty {text : String} : (condition : Condition) →
    condition.render dialect = .ok text → (text = "" ↔ condition.isEmpty = true)
  | .raw sql, rendered => by
      simp only [Condition.render, Except.ok.injEq] at rendered
      rw [← rendered, Condition.isEmpty, trim_eq_empty]
  | .group connective members, rendered => by
      simp only [Condition.render, bind_eq_ok, Except.ok.injEq] at rendered
      obtain ⟨texts, each, rfl⟩ := rendered
      have filled : ∀ text ∈ texts.filter (· ≠ ""), text ≠ "" := by
        intro text member
        simpa using (List.mem_filter.1 member).2
      rw [joinMembers_eq_empty filled, ← List.length_eq_zero_iff,
        Condition.length_renderAll members each, countFilled_eq_zero, Condition.isEmpty]
  | .leaf column operator operand, rendered => by
      simp only [Condition.render, bind_eq_ok, Except.ok.injEq] at rendered
      obtain ⟨left, named, right, compared, rfl⟩ := rendered
      simp [Condition.isEmpty]

/-- As many members render to something as are not empty. -/
theorem Condition.length_renderAll {texts : List String} : (members : List Condition) →
    Condition.renderAll dialect members = .ok texts →
      (texts.filter (· ≠ "")).length = Condition.countFilled members
  | [], rendered => by
      simp only [Condition.renderAll, Except.ok.injEq] at rendered
      rw [← rendered]
      rfl
  | member :: rest, rendered => by
      simp only [Condition.renderAll, bind_eq_ok, Except.ok.injEq] at rendered
      obtain ⟨first, written, others, remaining, rfl⟩ := rendered
      have later := Condition.length_renderAll rest remaining
      have here := Condition.render_eq_empty member written
      unfold Condition.countFilled at later ⊢
      by_cases empty : member.isEmpty = true
      · simp [here.2 empty, empty, ← later]
      · simp [mt here.1 empty, empty, ← later]

end

mutual

/-- A tight condition has no OR outside brackets. -/
theorem Condition.uncut_render {text : String} : (condition : Condition) →
    condition.Complete dialect → condition.Tight dialect → condition.render dialect = .ok text →
      Uncut .or [] (tokens dialect text)
  | .raw sql, _, tight, rendered => by
      simp only [Condition.render, Except.ok.injEq] at rendered
      rw [← rendered]
      exact tight
  | .group connective members, complete, tight, rendered => by
      simp only [Condition.render, bind_eq_ok, Except.ok.injEq] at rendered
      obtain ⟨texts, each, rfl⟩ := rendered
      have whole := Condition.whole_renderAll members complete each
      refine uncut_joinMembers (fun text member => whole text (List.mem_filter.1 member).1) ?_
      intro single text member
      rw [Condition.length_renderAll members each] at single
      exact Condition.uncut_renderAll members complete (tight single) each text
        (List.mem_filter.1 member).1
  | .leaf column operator operand, complete, _, rendered => by
      simp only [Condition.render, bind_eq_ok, Except.ok.injEq] at rendered
      obtain ⟨left, named, right, compared, rfl⟩ := rendered
      exact (atom_leaf complete.1 named
        (Operand.solid_render operand complete.2 compared)).1.uncut .or

theorem Condition.uncut_renderAll {texts : List String} : (members : List Condition) →
    Condition.AllComplete dialect members → Condition.AllTight dialect members →
      Condition.renderAll dialect members = .ok texts →
        ∀ text ∈ texts, Uncut .or [] (tokens dialect text)
  | [], _, _, rendered => by
      simp only [Condition.renderAll, Except.ok.injEq] at rendered
      simp [← rendered]
  | member :: rest, complete, tight, rendered => by
      simp only [Condition.renderAll, bind_eq_ok, Except.ok.injEq] at rendered
      obtain ⟨first, written, others, remaining, rfl⟩ := rendered
      intro text inTexts
      rcases List.mem_cons.1 inTexts with rfl | later
      · exact Condition.uncut_render member complete.1 tight.1 written
      · exact Condition.uncut_renderAll rest complete.2 tight.2 remaining text later

end

mutual

/-- The text of a guarded condition has the truth of the condition. -/
theorem Condition.value_render (truth : List Token → Bool) {text : String} :
    (condition : Condition) → condition.Complete dialect → condition.Guarded dialect →
      condition.render dialect = .ok text → text ≠ "" →
        value truth (tokens dialect text) = condition.holds dialect truth
  | .raw sql, _, _, rendered, _ => by
      simp only [Condition.render, Except.ok.injEq] at rendered
      rw [← rendered, Condition.holds]
  | .group connective members, complete, guarded, rendered, filled => by
      simp only [Condition.render, bind_eq_ok, Except.ok.injEq] at rendered
      obtain ⟨texts, each, rfl⟩ := rendered
      have whole := Condition.whole_renderAll members complete each
      -- The texts that are left after the filter are those of the members that count.
      have meanings := Condition.values_renderAll truth members complete guarded.1 each
      rw [Condition.holds, ← meanings]
      refine value_joinMembers truth ?_ (fun text member => whole text (List.mem_filter.1 member).1)
        ?_
      · intro none
        rw [none] at filled
        contradiction
      · intro conjunction several text member
        rw [Condition.length_renderAll members each] at several
        exact Condition.uncut_renderAll members complete (guarded.2 conjunction several) each text
          (List.mem_filter.1 member).1
  | .leaf column operator operand, complete, _, rendered, _ => by
      have shows := rendered
      simp only [Condition.render, bind_eq_ok, Except.ok.injEq] at rendered
      obtain ⟨left, named, right, compared, rfl⟩ := rendered
      obtain ⟨solid, bare⟩ :=
        atom_leaf complete.1 named (Operand.solid_render operand complete.2 compared)
      rw [value_of_atom solid.uncut bare, Condition.holds, shows]
      rfl

/-- The texts of guarded conditions have the truth of the conditions. -/
theorem Condition.values_renderAll (truth : List Token → Bool) {texts : List String} :
    (members : List Condition) → Condition.AllComplete dialect members →
      Condition.AllGuarded dialect members → Condition.renderAll dialect members = .ok texts →
        (texts.filter (· ≠ "")).map (fun text => value truth (tokens dialect text)) =
          Condition.meanings dialect truth members
  | [], _, _, rendered => by
      simp only [Condition.renderAll, Except.ok.injEq] at rendered
      rw [← rendered]
      rfl
  | member :: rest, complete, guarded, rendered => by
      simp only [Condition.renderAll, bind_eq_ok, Except.ok.injEq] at rendered
      obtain ⟨first, written, others, remaining, rfl⟩ := rendered
      have later := Condition.values_renderAll truth rest complete.2 guarded.2 remaining
      have here := Condition.render_eq_empty member written
      by_cases empty : member.isEmpty = true
      · simp only [here.2 empty, Condition.meanings, empty, if_true, ← later]
        rfl
      · have filled := mt here.1 empty
        have truthful := Condition.value_render truth member complete.1 guarded.1 written filled
        rw [Condition.meanings, if_neg empty, List.filter_cons_of_pos (by simpa using filled),
          List.map_cons, truthful, later]

end

/-! ## Growing filters -/

/-- The truth of comparisons and raw texts that their own texts have. -/
def Condition.readings (dialect : Dialect) (truth : List Token → Bool) : Condition.Assignment where
  leaf column operator operand :=
    truth (tokens dialect (shown (Condition.render dialect (.leaf column operator operand))))
  raw sql := value truth (tokens dialect (Text.trim sql))

mutual

theorem Condition.holds_eq_truth (truth : List Token → Bool) : (condition : Condition) →
    condition.holds dialect truth = condition.truth (readings dialect truth)
  | .raw sql => by rw [Condition.holds, Condition.truth, readings]
  | .leaf column operator operand => by rw [Condition.holds, Condition.truth, readings]
  | .group connective members => by
      rw [Condition.holds, Condition.truth, Condition.meanings_eq_truths truth members]

theorem Condition.meanings_eq_truths (truth : List Token → Bool) : (members : List Condition) →
    Condition.meanings dialect truth members = Condition.truths (readings dialect truth) members
  | [] => rfl
  | member :: rest => by
      rw [Condition.meanings, Condition.truths, Condition.holds_eq_truth truth member,
        Condition.meanings_eq_truths truth rest]

end

/-- A grown condition joins the truth of both, where an empty one has none. -/
theorem Condition.holds_push (truth : List Token → Bool) (connective : Connective)
    {condition other : Condition} (filled : ¬(condition.isEmpty = true ∧ other.isEmpty = true)) :
    (condition.push connective other).holds dialect truth =
      connective.joins (Condition.meanings dialect truth [condition, other]) := by
  have grown : (condition.push connective other).isEmpty = false := by
    simpa [isEmpty_push] using filled
  rw [holds_eq_truth, meanings_eq_truths]
  apply Option.some.inj
  rw [← truth?_of_filled grown, truth?_push]
  cases first : condition.isEmpty <;> cases second : other.isEmpty <;>
    simp_all [truth?, truths, Connective.joins_singleton, Connective.joins_pair]

/-- What holds of each member holds of a list that grows by such a member. -/
theorem all_append {each : Condition → Prop} {all : List Condition → Prop} (nil : all [])
    (cons : ∀ member rest, all (member :: rest) ↔ each member ∧ all rest)
    {left : List Condition} {last : Condition} (members : all left) (one : each last) :
    all (left ++ [last]) := by
  induction left with
  | nil => exact (cons last []).2 ⟨one, nil⟩
  | cons member rest ih =>
      obtain ⟨here, later⟩ := (cons member rest).1 members
      exact (cons member _).2 ⟨here, ih later⟩

theorem Condition.complete_push {connective : Connective} {condition other : Condition}
    (first : condition.Complete dialect) (second : other.Complete dialect) :
    (condition.push connective other).Complete dialect := by
  obtain ⟨-, same⟩ | ⟨-, ⟨-, same⟩ | ⟨-, ⟨members, rfl, same⟩ | same⟩⟩ :=
    push_cases condition connective other
  · rw [same]
    exact first
  · rw [same]
    exact second
  · rw [same]
    have grown : Condition.AllComplete dialect (members ++ [other]) :=
      all_append trivial (fun _ _ => Iff.rfl) first second
    exact grown
  · rw [same]
    exact ⟨first, second, trivial⟩

/-- A condition stays guarded when only tight conditions are put beside each other under an AND. -/
theorem Condition.guarded_push {connective : Connective} {condition other : Condition}
    (first : condition.Guarded dialect) (second : other.Guarded dialect)
    (tight : connective = .and → condition.isEmpty = false → other.isEmpty = false →
      condition.Tight dialect ∧ other.Tight dialect) :
    (condition.push connective other).Guarded dialect := by
  obtain ⟨-, same⟩ | ⟨some, ⟨-, same⟩ | ⟨filled, ⟨members, rfl, same⟩ | same⟩⟩ :=
    push_cases condition connective other
  · rw [same]
    exact first
  · rw [same]
    exact second
  · rw [same]
    have grown : Condition.AllGuarded dialect (members ++ [other]) :=
      all_append trivial (fun _ _ => Iff.rfl) first.1 second
    refine ⟨grown, fun conjunction _ => ?_⟩
    obtain ⟨single, last⟩ := tight conjunction filled some
    suffices Condition.AllTight dialect members from
      all_append trivial (fun _ _ => Iff.rfl) this last
    -- A group of one is as tight as its member; a larger one was guarded before.
    by_cases several : 2 ≤ Condition.countFilled members
    · exact first.2 conjunction several
    · have present : Condition.countFilled members ≠ 0 := by
        rw [Ne, countFilled_eq_zero]
        exact Bool.eq_false_iff.1 filled
      exact single (by omega)
  · rw [same]
    exact ⟨⟨first, second, trivial⟩, fun conjunction _ =>
      ⟨(tight conjunction filled some).1, (tight conjunction filled some).2, trivial⟩⟩

/-- A condition whose text can be read and whose disjunctions are guarded. -/
structure Condition.Readable (dialect : Dialect) (condition : Condition) : Prop where
  complete : condition.Complete dialect
  guarded : condition.Guarded dialect

/-- The text of a readable condition has the truth of the condition, whatever the truth of its
comparisons; and a condition added to the filter of a selection is joined to all of it. -/
theorem Condition.rendered_truth (dialect : Dialect) (truth : List Token → Bool) :
    (∀ (condition : Condition) (text : String), condition.Readable dialect →
      condition.render dialect = .ok text → text ≠ "" →
        value truth (tokens dialect text) = condition.holds dialect truth) ∧
    ∀ (select : Select) (connective : Connective) (condition : Condition) (text : String),
      select.filter.Readable dialect → condition.Readable dialect →
      (connective = .and → select.filter.isEmpty = false → condition.isEmpty = false →
        select.filter.Tight dialect ∧ condition.Tight dialect) →
      (select.addFilter connective condition).filter.render dialect = .ok text → text ≠ "" →
        value truth (tokens dialect text) =
          connective.joins (Condition.meanings dialect truth [select.filter, condition]) := by
  refine ⟨fun condition text readable rendered filled =>
    Condition.value_render truth condition readable.complete readable.guarded rendered filled, ?_⟩
  intro select connective condition text first second tight rendered filled
  change (select.filter.push connective condition).render dialect = .ok text at rendered
  have complete : (select.filter.push connective condition).Complete dialect :=
    Condition.complete_push first.complete second.complete
  have guarded := Condition.guarded_push first.guarded second.guarded tight
  have some : ¬(select.filter.isEmpty = true ∧ condition.isEmpty = true) := by
    rintro ⟨noFilter, noCondition⟩
    have same : select.filter.push connective condition = select.filter := by
      unfold Condition.push
      rw [if_pos noCondition]
    rw [same] at rendered
    exact filled ((Condition.render_eq_empty _ rendered).2 noFilter)
  rw [Condition.value_render truth _ complete guarded rendered filled,
    Condition.holds_push truth connective some]

/-- A disjunction of a verbatim disjunction, with a connective in a quoted section, and of a
conjunction, with a range. -/
def mixedFilter : Condition :=
  .group .or [.raw "a = 1 OR b = 'x AND y'",
    .group .and [.eq "c" (.scalar (.text "it's")), .raw " d BETWEEN 1 AND 2 "]]

/-- The text of the mixed filter. -/
def mixedText : String :=
  "(a = 1 OR b = 'x AND y' OR (\"c\" = 'it''s' AND d BETWEEN 1 AND 2))"

theorem tight_mixedFilter : mixedFilter.Tight .postgres :=
  fun single => absurd single (by decide)

theorem readable_mixedFilter : mixedFilter.Readable .postgres := by
  have disjunction : Whole .postgres (Text.trim "a = 1 OR b = 'x AND y'") := by decide +kernel
  have range : Whole .postgres (Text.trim " d BETWEEN 1 AND 2 ") := by decide +kernel
  have uncut : Uncut .or [] (tokens .postgres (Text.trim " d BETWEEN 1 AND 2 ")) := by
    decide +kernel
  have column : SolidColumn .postgres "c" := Or.inl (by decide +kernel)
  exact
    { complete := ⟨disjunction, ⟨⟨column, trivial⟩, range, trivial⟩, trivial⟩
      guarded := ⟨⟨trivial, ⟨⟨trivial, trivial, trivial⟩, fun _ _ => ⟨trivial, uncut, trivial⟩⟩,
        trivial⟩, nofun⟩ }

/-- The rule applies to the mixed filter, and to a selection that it is added to. -/
theorem Condition.rendered_truth_mixed :
    let truth : List Token → Bool := fun factor => factor != tokens .postgres "a = 1"
    let select := (Select.empty .postgres).addFilter .and (.raw "e = 5")
    mixedFilter.Readable .postgres ∧
      mixedFilter.render .postgres = .ok mixedText ∧
      value truth (tokens .postgres mixedText) = mixedFilter.holds .postgres truth ∧
      select.filter.Readable .postgres ∧
      (select.addFilter .and mixedFilter).filter.render .postgres =
        .ok ("(e = 5 AND " ++ mixedText ++ ")") ∧
      value truth (tokens .postgres ("(e = 5 AND " ++ mixedText ++ ")")) =
        Connective.joins .and
          (Condition.meanings .postgres truth [select.filter, mixedFilter]) := by
  intro truth select
  have whole : Whole .postgres (Text.trim "e = 5") := by decide +kernel
  have uncut : Uncut .or [] (tokens .postgres (Text.trim "e = 5")) := by decide +kernel
  have readable : select.filter.Readable .postgres := ⟨whole, trivial⟩
  have alone : mixedFilter.render .postgres = .ok mixedText := by decide +kernel
  have added : (select.addFilter .and mixedFilter).filter.render .postgres =
      .ok ("(e = 5 AND " ++ mixedText ++ ")") := by decide +kernel
  obtain ⟨rendered, grown⟩ := Condition.rendered_truth .postgres truth
  exact ⟨readable_mixedFilter, alone,
    rendered mixedFilter mixedText readable_mixedFilter alone (by decide), readable, added,
    grown select .and mixedFilter _ readable readable_mixedFilter
      (fun _ _ _ => ⟨uncut, tight_mixedFilter⟩) added (by decide)⟩

/-- A verbatim OR that meets an AND widens a filter: a row that fails the second condition
passes. -/
theorem Condition.loose_filter_widens :
    let filter := (((Select.empty .postgres).addFilter .and (.raw "a = 1 OR b = 2")).addFilter .and
      (.eq "c" (.scalar (.int 3)))).filter
    filter.Complete .postgres ∧
      filter.render .postgres = .ok "(a = 1 OR b = 2 AND \"c\" = 3)" ∧
      value (fun factor => factor == tokens .postgres "a = 1")
        (tokens .postgres "(a = 1 OR b = 2 AND \"c\" = 3)") = true ∧
      filter.holds .postgres (fun factor => factor == tokens .postgres "a = 1") = false := by
  have disjunction : Whole .postgres (Text.trim "a = 1 OR b = 2") := by decide +kernel
  have column : SolidColumn .postgres "c" := Or.inl (by decide +kernel)
  exact ⟨⟨disjunction, ⟨column, trivial⟩, trivial⟩, by decide +kernel, by decide +kernel,
    by decide +kernel⟩

end SqlClient
