import Mathlib.Data.List.Basic
import SqlClient.Proofs.Tokens

/-!
# The truth of a text

How a database reads the connectives of a text: a text is cut at every OR outside brackets, the
parts at every AND outside brackets, and a part in one pair of parentheses is read as what it
encloses. What is left has a truth value of its own. Main statements: parts joined by OR, or by AND
where no part has an OR outside brackets, have the truth of their joined values, and parentheses
around them change nothing.
-/

namespace SqlClient

namespace Reading

/-! ## Brackets -/

/-- The open brackets behind a token, the innermost first; none when a bracket is closed that is not
the innermost one. -/
def nest : List Bracket → Token → Option (List Bracket)
  | stack, .opening bracket => some (bracket :: stack)
  | [], .closing _ => none
  | innermost :: stack, .closing bracket => if innermost = bracket then some stack else none
  | .range :: stack, .connective .and => some stack
  | stack, .connective _ => some stack
  | stack, .plain _ => some stack

@[simp] theorem nest_plain (stack : List Bracket) (chars : List Char) :
    nest stack (.plain chars) = some stack := by
  rcases stack with - | ⟨innermost, stack⟩
  · rfl
  · cases innermost <;> rfl

@[simp] theorem nest_nil_connective (connective : Connective) :
    nest [] (.connective connective) = some [] := by
  cases connective <;> rfl

/-- The open brackets behind tokens. -/
def nestAll (stack : List Bracket) (tokens : List Token) : Option (List Bracket) :=
  tokens.foldlM nest stack

/-- Tokens that close what they open, and nothing else. -/
def Paired (tokens : List Token) : Prop :=
  nestAll [] tokens = some []

instance (tokens : List Token) : Decidable (Paired tokens) :=
  inferInstanceAs (Decidable (_ = _))

@[simp] theorem nestAll_nil (stack : List Bracket) : nestAll stack [] = some stack := rfl

theorem nestAll_cons (stack : List Bracket) (token : Token) (rest : List Token) :
    nestAll stack (token :: rest) = (nest stack token).bind fun inner => nestAll inner rest :=
  List.foldlM_cons

theorem nestAll_append (stack : List Bracket) (left right : List Token) :
    nestAll stack (left ++ right) =
      (nestAll stack left).bind fun inner => nestAll inner right :=
  List.foldlM_append

theorem Paired.append {left right : List Token} (first : Paired left)
    (second : Paired right) : Paired (left ++ right) := by
  rw [Paired, nestAll_append, first]
  exact second

/-- Parentheses further out do not change how brackets nest. -/
theorem nest_append {stack after : List Bracket} {token : Token} (outer : List Bracket)
    (nested : nest stack token = some after) :
    nest (stack ++ .paren :: outer) token = some (after ++ .paren :: outer) := by
  cases token with
  | opening bracket =>
      obtain rfl := Option.some.inj nested
      rfl
  | closing bracket =>
      cases stack with
      | nil => contradiction
      | cons innermost stack =>
          by_cases closes : innermost = bracket
          · simp_all [nest]
          · simp [nest, closes] at nested
  | connective connective =>
      cases stack with
      | nil => cases connective <;> (obtain rfl := Option.some.inj nested; rfl)
      | cons innermost stack =>
          cases innermost <;> cases connective <;> (obtain rfl := Option.some.inj nested; rfl)
  | plain chars =>
      rw [nest_plain] at nested ⊢
      rw [Option.some.inj nested]

theorem nestAll_of_append {stack after : List Bracket} {tokens : List Token}
    (outer : List Bracket) (nested : nestAll stack tokens = some after) :
    nestAll (stack ++ .paren :: outer) tokens = some (after ++ .paren :: outer) := by
  induction tokens generalizing stack with
  | nil =>
      obtain rfl : stack = after := by simpa using nested
      rfl
  | cons token rest ih =>
      rw [nestAll_cons, Option.bind_eq_some_iff] at nested
      obtain ⟨inner, here, later⟩ := nested
      rw [nestAll_cons, nest_append outer here]
      exact ih later

/-- Tokens in parentheses. -/
def enclosed (inner : List Token) : List Token :=
  .opening .paren :: inner ++ [.closing .paren]

theorem paired_enclosed {inner : List Token} (paired : Paired inner) :
    Paired (enclosed inner) := by
  have within := nestAll_of_append [] paired
  rw [Paired, enclosed, List.cons_append, nestAll_cons]
  change nestAll [.paren] (inner ++ [.closing .paren]) = some []
  rw [nestAll_append, List.nil_append] at *
  rw [within]
  rfl

/-! ## Cuts -/

/-- The parts of tokens between the copies of a connective outside brackets. Behind a bracket that
closes nothing there are no cuts. -/
def cutFrom (connective : Connective) : List Bracket → List Token → List (List Token)
  | _, [] => [[]]
  | stack, token :: rest =>
      if stack = [] ∧ token = .connective connective then [] :: cutFrom connective [] rest
      else
        match nest stack token with
        | none => [token :: rest]
        | some inner => (cutFrom connective inner rest).modifyHead (token :: ·)

/-- The parts of a text between the copies of a connective outside brackets. -/
def cut (connective : Connective) (tokens : List Token) : List (List Token) :=
  cutFrom connective [] tokens

/-- No copy of the connective stands outside brackets. -/
def Uncut (connective : Connective) (stack : List Bracket) (tokens : List Token) : Prop :=
  cutFrom connective stack tokens = [tokens]

instance (connective : Connective) (stack : List Bracket) (tokens : List Token) :
    Decidable (Uncut connective stack tokens) :=
  inferInstanceAs (Decidable (_ = _))

theorem cutFrom_ne_nil (connective : Connective) (stack : List Bracket) (tokens : List Token) :
    cutFrom connective stack tokens ≠ [] := by
  induction tokens generalizing stack with
  | nil => simp [cutFrom]
  | cons token rest ih =>
      rw [cutFrom]
      split
      · simp
      · split
        · simp
        · next inner _ => simpa using ih inner

theorem length_of_mem_cutFrom {connective : Connective} {stack : List Bracket}
    {tokens part : List Token} (member : part ∈ cutFrom connective stack tokens) :
    part.length ≤ tokens.length := by
  induction tokens generalizing stack part with
  | nil => simp_all [cutFrom]
  | cons token rest ih =>
      rw [cutFrom] at member
      split at member
      · rcases List.mem_cons.1 member with rfl | later
        · simp
        · exact Nat.le_succ_of_le (ih later)
      · split at member
        · obtain rfl := List.mem_singleton.1 member
          exact Nat.le_refl _
        · next inner _ =>
          obtain ⟨head, others, parts⟩ :=
            List.exists_cons_of_ne_nil (cutFrom_ne_nil connective inner rest)
          rw [parts, List.modifyHead_cons] at member
          rcases List.mem_cons.1 member with rfl | later
          · exact Nat.succ_le_succ (ih (parts ▸ List.mem_cons_self))
          · exact Nat.le_succ_of_le (ih (parts ▸ List.mem_cons_of_mem head later))

/-- Tokens without a connective of their own do not part what stands before them from what
follows. -/
theorem Uncut.append {connective : Connective} {stack inner : List Bracket}
    {left right : List Token} (first : Uncut connective stack left)
    (nested : nestAll stack left = some inner) (second : Uncut connective inner right) :
    Uncut connective stack (left ++ right) := by
  induction left generalizing stack with
  | nil =>
      obtain rfl : stack = inner := by simpa using nested
      exact second
  | cons token rest ih =>
      rw [nestAll_cons, Option.bind_eq_some_iff] at nested
      obtain ⟨after, here, later⟩ := nested
      rw [Uncut, cutFrom] at first
      split at first
      · simp at first
      · next inside =>
        rw [here] at first
        have whole : Uncut connective after rest := by
          obtain ⟨head, others, parts⟩ :=
            List.exists_cons_of_ne_nil (cutFrom_ne_nil connective after rest)
          rw [Uncut, parts]
          simpa [parts] using first
        rw [Uncut, List.cons_append, cutFrom, if_neg inside, here]
        dsimp only
        rw [ih whole later]
        rfl

/-- Behind a whole part, a connective cuts. -/
theorem cutFrom_append {connective : Connective} {stack : List Bracket} {left : List Token}
    (right : List Token) (nested : nestAll stack left = some []) :
    cutFrom connective stack (left ++ .connective connective :: right) =
      cutFrom connective stack left ++ cut connective right := by
  induction left generalizing stack with
  | nil =>
      obtain rfl : stack = [] := by simpa using nested
      simp [cutFrom, cut]
  | cons token rest ih =>
      rw [nestAll_cons, Option.bind_eq_some_iff] at nested
      obtain ⟨after, here, later⟩ := nested
      rw [List.cons_append, cutFrom, cutFrom]
      split
      · next outermost =>
        obtain ⟨rfl, rfl⟩ := outermost
        obtain rfl : after = [] := by simpa [eq_comm] using here
        rw [ih later, List.cons_append]
      · rw [here]
        dsimp only
        rw [ih later]
        obtain ⟨head, others, parts⟩ :=
          List.exists_cons_of_ne_nil (cutFrom_ne_nil connective after rest)
        rw [parts]
        rfl

/-- Inside parentheses nothing is cut. -/
theorem uncut_of_nested {connective : Connective} {stack after : List Bracket}
    {tokens : List Token} (outer : List Bracket) (nested : nestAll stack tokens = some after) :
    Uncut connective (stack ++ .paren :: outer) tokens := by
  induction tokens generalizing stack with
  | nil => rfl
  | cons token rest ih =>
      rw [nestAll_cons, Option.bind_eq_some_iff] at nested
      obtain ⟨inner, here, later⟩ := nested
      rw [Uncut, cutFrom, if_neg (by simp), nest_append outer here]
      dsimp only
      rw [ih later]
      rfl

theorem uncut_enclosed (connective : Connective) {inner : List Token}
    (paired : Paired inner) : Uncut connective [] (enclosed inner) := by
  have within : nestAll [.paren] inner = some [.paren] := nestAll_of_append [] paired
  have opening : Uncut connective [] [.opening .paren] := by cases connective <;> rfl
  have closing : Uncut connective [.paren] [.closing .paren] := by cases connective <;> rfl
  have behind : Uncut connective [.paren] (inner ++ [.closing .paren]) :=
    (uncut_of_nested [] paired).append within closing
  exact opening.append rfl behind

/-! ## Joined parts -/

/-- Parts with a connective between them. -/
def joined (connective : Connective) (parts : List (List Token)) : List Token :=
  [.connective connective].intercalate parts

@[simp] theorem joined_singleton (connective : Connective) (part : List Token) :
    joined connective [part] = part := by
  simp [joined]

@[simp] theorem joined_cons_cons (connective : Connective) (part next : List Token)
    (rest : List (List Token)) :
    joined connective (part :: next :: rest) =
      part ++ .connective connective :: joined connective (next :: rest) := by
  simp [joined]

theorem paired_joined {connective : Connective} {parts : List (List Token)}
    (paired : ∀ part ∈ parts, Paired part) : Paired (joined connective parts) := by
  induction parts with
  | nil => rfl
  | cons part rest ih =>
      have here := paired part List.mem_cons_self
      cases rest with
      | nil => simpa using here
      | cons next rest =>
          have later := ih fun other member => paired other (List.mem_cons_of_mem part member)
          rw [joined_cons_cons]
          refine here.append ?_
          rw [Paired, nestAll_cons, nest_nil_connective]
          exact later

/-- Joined parts are cut into the cuts of each. -/
theorem cut_joined {connective : Connective} {parts : List (List Token)} (filled : parts ≠ [])
    (paired : ∀ part ∈ parts, Paired part) :
    cut connective (joined connective parts) = parts.flatMap (cut connective) := by
  induction parts with
  | nil => contradiction
  | cons part rest ih =>
      cases rest with
      | nil => simp
      | cons next rest =>
          have later := ih (by simp) fun other member =>
            paired other (List.mem_cons_of_mem part member)
          rw [joined_cons_cons, cut, cutFrom_append _ (paired part List.mem_cons_self), later,
            List.flatMap_cons]
          rfl

/-- Parts without an OR outside brackets have none when they are joined by AND. -/
theorem uncut_joined {parts : List (List Token)} (paired : ∀ part ∈ parts, Paired part)
    (uncut : ∀ part ∈ parts, Uncut .or [] part) : Uncut .or [] (joined .and parts) := by
  induction parts with
  | nil => rfl
  | cons part rest ih =>
      have here := uncut part List.mem_cons_self
      cases rest with
      | nil => simpa using here
      | cons next rest =>
          have later := ih (fun other member => paired other (List.mem_cons_of_mem part member))
            fun other member => uncut other (List.mem_cons_of_mem part member)
          have single : Uncut .or [] [.connective .and] := rfl
          rw [joined_cons_cons]
          exact here.append (paired part List.mem_cons_self) (single.append rfl later)

/-! ## Truth -/

/-- What one pair of parentheses around all of a part encloses. -/
def unwrap? : List Token → Option (List Token)
  | .opening .paren :: rest =>
      if rest.getLast? = some (.closing .paren) ∧ Paired rest.dropLast then some rest.dropLast
      else none
  | _ => none

theorem unwrap?_enclosed {inner : List Token} (paired : Paired inner) :
    unwrap? (enclosed inner) = some inner := by
  simp [unwrap?, enclosed, paired]

theorem length_of_unwrap? {tokens inner : List Token} (unwrapped : unwrap? tokens = some inner) :
    inner.length < tokens.length := by
  unfold unwrap? at unwrapped
  split at unwrapped
  · split at unwrapped
    · obtain rfl := Option.some.inj unwrapped
      simp only [List.length_dropLast, List.length_cons]
      omega
    · contradiction
  · contradiction

/-- The truth of a text when the parts without connectives and enclosing parentheses have the given
truth: some part between the ORs holds, and a part holds when all its parts between the ANDs do. -/
def value (truth : List Token → Bool) (tokens : List Token) : Bool :=
  (cut .or tokens).attach.any fun ⟨part, _inText⟩ =>
    (cut .and part).attach.all fun ⟨factor, _inPart⟩ =>
      match _unwrapped : unwrap? factor with
      | some inner => value truth inner
      | none => truth factor
termination_by tokens.length
decreasing_by
  have shorter := length_of_unwrap? _unwrapped
  have within := length_of_mem_cutFrom _inText
  have inside := length_of_mem_cutFrom _inPart
  omega

/-- The truth of a part without connectives outside brackets. -/
def factorValue (truth : List Token → Bool) (factor : List Token) : Bool :=
  match unwrap? factor with
  | some inner => value truth inner
  | none => truth factor

variable {truth : List Token → Bool}

theorem value_eq (truth : List Token → Bool) (tokens : List Token) :
    value truth tokens =
      (cut .or tokens).any fun part => (cut .and part).all (factorValue truth) := by
  have each : ∀ factor, (match _unwrapped : unwrap? factor with
      | some inner => value truth inner
      | none => truth factor) = factorValue truth factor := by
    intro factor
    rw [factorValue]
    split <;> simp_all
  rw [value]
  simp only [each]
  simp

theorem value_of_uncut {tokens : List Token} (uncut : Uncut .or [] tokens) :
    value truth tokens = (cut .and tokens).all (factorValue truth) := by
  rw [value_eq, cut, uncut, List.any_cons, List.any_nil, Bool.or_false]

/-- A part without connectives and enclosing parentheses has its own truth. -/
theorem value_of_atom {tokens : List Token} (uncut : ∀ connective, Uncut connective [] tokens)
    (bare : unwrap? tokens = none) : value truth tokens = truth tokens := by
  rw [value_of_uncut (uncut .or), cut, uncut .and, List.all_cons, List.all_nil, Bool.and_true,
    factorValue, bare]

/-- Parentheses keep the truth of what they enclose. -/
theorem value_enclosed {inner : List Token} (paired : Paired inner) :
    value truth (enclosed inner) = value truth inner := by
  rw [value_of_uncut (uncut_enclosed .or paired), cut, uncut_enclosed .and paired,
    List.all_cons, List.all_nil, Bool.and_true, factorValue, unwrap?_enclosed paired]

/-- Parts joined by OR hold when some part holds. -/
theorem value_joined_or {parts : List (List Token)} (filled : parts ≠ [])
    (paired : ∀ part ∈ parts, Paired part) :
    value truth (joined .or parts) = parts.any (value truth) := by
  rw [value_eq, cut_joined filled paired, List.any_flatMap]
  congr 1
  funext part
  rw [value_eq]

/-- Parts joined by AND hold when all do, if none has an OR outside brackets. -/
theorem value_joined_and {parts : List (List Token)} (filled : parts ≠ [])
    (paired : ∀ part ∈ parts, Paired part) (uncut : ∀ part ∈ parts, Uncut .or [] part) :
    value truth (joined .and parts) = parts.all (value truth) := by
  rw [value_of_uncut (uncut_joined paired uncut), cut_joined filled paired, List.all_flatMap,
    Bool.eq_iff_iff, List.all_eq_true, List.all_eq_true]
  refine forall₂_congr fun part member => ?_
  rw [value_of_uncut (uncut part member)]

/-- AND binds tighter than OR, and neither counts inside a quoted section or a range. -/
example : value (fun factor => factor == tokens .sqlite "a")
    (tokens .sqlite "a OR b BETWEEN 1 AND 2 AND (c = 'x OR y' OR d)") = true := by
  decide +kernel

/-! ## Whole texts -/

variable {dialect : Dialect}

/-- A text that closes what it opens: quotes, comments and brackets. -/
def Whole (dialect : Dialect) (text : String) : Prop :=
  (placeAfter dialect text).isOutside = true ∧ Paired (tokens dialect text)

instance (dialect : Dialect) (text : String) : Decidable (Whole dialect text) :=
  inferInstanceAs (Decidable (_ ∧ _))

/-- A whole text without connectives outside brackets. -/
def Solid (dialect : Dialect) (text : String) : Prop :=
  Whole dialect text ∧ Uncut .and [] (tokens dialect text) ∧ Uncut .or [] (tokens dialect text)

instance (dialect : Dialect) (text : String) : Decidable (Solid dialect text) :=
  inferInstanceAs (Decidable (_ ∧ _ ∧ _))

theorem Solid.uncut {text : String} (solid : Solid dialect text) (connective : Connective) :
    Uncut connective [] (tokens dialect text) := by
  cases connective with
  | and => exact solid.2.1
  | or => exact solid.2.2

theorem solid_of_uncut {text : String} (whole : Whole dialect text)
    (uncut : ∀ connective, Uncut connective [] (tokens dialect text)) : Solid dialect text :=
  ⟨whole, uncut .and, uncut .or⟩

theorem Whole.append {left right : String} (first : Whole dialect left)
    (apart : Apart dialect left right) (second : Whole dialect right) :
    Whole dialect (left ++ right) := by
  refine ⟨isOutside_append apart first.1 second.1, ?_⟩
  rw [tokens_append apart]
  exact first.2.append second.2

theorem Solid.append {left right : String} (first : Solid dialect left)
    (apart : Apart dialect left right) (second : Solid dialect right) :
    Solid dialect (left ++ right) := by
  refine solid_of_uncut (first.1.append apart second.1) fun connective => ?_
  rw [tokens_append apart]
  exact (first.uncut connective).append first.1.2 (second.uncut connective)

/-- Plain tokens neither open nor close brackets, and none of them is a connective. -/
theorem nestAll_and_uncut_of_plain {stack : List Bracket} {tokens : List Token}
    (plain : tokens.all Token.isPlain = true) :
    nestAll stack tokens = some stack ∧ ∀ connective, Uncut connective stack tokens := by
  induction tokens with
  | nil => exact ⟨rfl, fun _ => rfl⟩
  | cons token rest ih =>
      cases token with
      | plain chars =>
          obtain ⟨nested, uncut⟩ := ih (by simpa [Token.isPlain] using plain)
          refine ⟨by rw [nestAll_cons, nest_plain]; exact nested, fun connective => ?_⟩
          rw [Uncut, cutFrom, if_neg (by simp), nest_plain]
          dsimp only
          rw [uncut connective]
          rfl
      | opening _ | closing _ | connective _ => simp [Token.isPlain] at plain

theorem solid_of_inert {text : String} (inert : Inert dialect text) : Solid dialect text := by
  obtain ⟨paired, uncut⟩ := nestAll_and_uncut_of_plain inert.2
  exact solid_of_uncut ⟨inert.1, paired⟩ uncut

/-- A blank between two texts parts their tokens. -/
theorem Solid.spaced {left right : String} (first : Solid dialect left)
    (second : Solid dialect right) :
    tokens dialect (left ++ " " ++ right) = tokens dialect left ++ tokens dialect right ∧
      Solid dialect (left ++ " " ++ right) := by
  have blank : Solid dialect " " ∧ tokens dialect " " = [] := by cases dialect <;> decide
  have settled : Apart dialect " " right := apart_of_settled right (by cases dialect <;> decide)
  have divided : Apart dialect left (" " ++ right) :=
    apart_of_divider first.1.1 (by simp [isDivider])
  rw [String.append_assoc]
  refine ⟨?_, first.append divided (blank.1.append settled second)⟩
  rw [tokens_append divided, tokens_append settled, blank.2, List.nil_append]

/-- A whole text in parentheses is its tokens in parentheses. -/
theorem parenthesised {text : String} (whole : Whole dialect text) :
    tokens dialect ("(" ++ text ++ ")") = enclosed (tokens dialect text) ∧
      Solid dialect ("(" ++ text ++ ")") := by
  have opening : placeAfter dialect "(" = .symbol ∧ tokens dialect "(" = [.opening .paren] := by
    cases dialect <;> decide
  have closing : placeAfter dialect ")" = .symbol ∧ tokens dialect ")" = [.closing .paren] := by
    cases dialect <;> decide
  have opened : Apart dialect "(" text := apart_of_settled text (by rw [opening.1]; rfl)
  have outside := isOutside_append opened (by rw [opening.1]; rfl) whole.1
  have closed : Apart dialect ("(" ++ text) ")" := apart_of_divider outside (by decide)
  have written : tokens dialect ("(" ++ text ++ ")") = enclosed (tokens dialect text) := by
    rw [tokens_append closed, tokens_append opened, opening.2, closing.2]
    rfl
  have ends := isOutside_append closed outside (by rw [closing.1]; rfl)
  refine ⟨written, solid_of_uncut ⟨ends, ?_⟩ fun connective => ?_⟩
  · rw [written]
    exact paired_enclosed whole.2
  · rw [written]
    exact uncut_enclosed connective whole.2

theorem solid_commaList {texts : List String} (solid : ∀ text ∈ texts, Solid dialect text) :
    Solid dialect (commaList texts) := by
  unfold commaList
  induction texts with
  | nil => cases dialect <;> decide
  | cons text rest ih =>
      have here := solid text List.mem_cons_self
      cases rest with
      | nil => simpa using here
      | cons next rest =>
          have later := ih fun other member => solid other (List.mem_cons_of_mem text member)
          have comma : Solid dialect ", " := by cases dialect <;> decide
          have settled : (placeAfter dialect ", ").isSettled = true := by cases dialect <;> decide
          rw [String.intercalate_cons_cons, String.append_assoc]
          refine here.append (apart_of_divider here.1.1 ?_)
            (comma.append (apart_of_settled _ settled) later)
          simp [isDivider]

/-- Whole texts with a connective between them are their tokens, joined by it. -/
theorem tokens_intercalate {connective : Connective} {texts : List String}
    (whole : ∀ text ∈ texts, Whole dialect text) :
    (placeAfter dialect (connective.sql.intercalate texts)).isOutside = true ∧
      tokens dialect (connective.sql.intercalate texts) =
        joined connective (texts.map (tokens dialect)) := by
  induction texts with
  | nil => exact ⟨rfl, rfl⟩
  | cons text rest ih =>
      have here := whole text List.mem_cons_self
      cases rest with
      | nil => simpa using here.1
      | cons next rest =>
          obtain ⟨outside, written⟩ :=
            ih fun other member => whole other (List.mem_cons_of_mem text member)
          have between : placeAfter dialect connective.sql = .gap ∧
              tokens dialect connective.sql = [.connective connective] := by
            cases dialect <;> cases connective <;> decide
          rw [String.intercalate_cons_cons, String.append_assoc]
          have settled : Apart dialect connective.sql (connective.sql.intercalate (next :: rest)) :=
            apart_of_settled _ (by rw [between.1]; rfl)
          have divided : Apart dialect text
              (connective.sql ++ connective.sql.intercalate (next :: rest)) := by
            apply apart_of_divider here.1
            cases connective <;> simp [Connective.sql, isDivider]
          refine ⟨isOutside_append divided here.1
            (isOutside_append settled (by rw [between.1]; rfl) outside), ?_⟩
          rw [tokens_append divided, tokens_append settled, between.2, written]
          simp

theorem whole_intercalate {connective : Connective} {texts : List String}
    (whole : ∀ text ∈ texts, Whole dialect text) :
    Whole dialect (connective.sql.intercalate texts) := by
  obtain ⟨outside, written⟩ := @tokens_intercalate dialect connective texts whole
  refine ⟨outside, ?_⟩
  rw [written]
  apply paired_joined
  intro part member
  obtain ⟨text, inTexts, rfl⟩ := List.mem_map.1 member
  exact (whole text inTexts).2

end Reading

end SqlClient
