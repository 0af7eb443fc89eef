import SqlClient.Proofs.Agreement
import SqlClient.Proofs.GivenAlias
import SqlClient.Proofs.QuotedLists
import SqlClient.Proofs.ValueSets

/-!
# Distinct columns

The names of the columns of an insertion are told apart as they are written, and only when the
insertion is rendered are blanks trimmed and quotes taken off. So the columns of its text are
distinct just if no two of the names are read as one reference. Names without quotes and blanks are
read as different ones.
-/

namespace SqlClient

namespace Scanner

variable {quote : Char} {chars : List Char} {text : String}

/-! ## Names without quotes -/

/-- Without quotes, a part and what follows it are the text. -/
theorem append_of_leadingPart {part rest : List Char} (bare : quote ∉ chars)
    (found : leadingPart quote chars = some (part, rest)) : part ++ rest = chars := by
  cases chars with
  | nil =>
      cases found
      rfl
  | cons char chars =>
      rw [leadingPart, if_neg (ne_of_mem_of_not_mem List.mem_cons_self bare)] at found
      cases found
      exact List.takeWhile_append_dropWhile

/-- Without quotes, the parts with points between them are the text. -/
theorem intercalate_of_partsOf {parts : List (List Char)} (bare : quote ∉ chars)
    (found : partsOf quote chars = .ok parts) : ['.'].intercalate parts = chars := by
  fun_induction partsOf quote chars generalizing parts with
  | case1 => cases found
  | case2 => cases found
  | case3 chars char rest leading =>
      cases found
      simpa using append_of_leadingPart bare leading
  | case4 chars char first rest leading induction =>
      have whole := append_of_leadingPart bare leading
      obtain ⟨later, cut, rfl⟩ := map_eq_ok.1 found
      have behind : quote ∉ rest := fun member => bare (by rw [← whole]; simp [member])
      have rested := induction behind cut
      obtain ⟨second, others, rfl⟩ : ∃ second others, later = second :: others :=
        List.exists_cons_of_ne_nil fun none => partsOf_ne_nil (none ▸ cut)
      rw [← whole, ← rested]
      simp [List.intercalate]
  | case5 => cases found

theorem intercalate_of_parts {parts : List String} (bare : quote ∉ text.toList)
    (found : Scanner.parts quote text = .ok parts) :
    ['.'].intercalate (parts.map String.toList) = text.toList := by
  rw [Scanner.parts] at found
  split at found
  · next cut =>
    cases found
    rw [List.map_map]
    simpa [Function.comp_def] using intercalate_of_partsOf bare cut
  · cases found

end Scanner

namespace Identifier

open Scanner

variable {dialect : Dialect} {name left right : String} {identifier other : Identifier}

/-! ## References and their texts -/

/-- A dotted name is a path of its parts, and an alias is the one part of the text it is written
with. -/
theorem path_of_texts {quote : Char} {base : String} {label? : Option String}
    (read : ofTexts quote base label? = .ok identifier) :
    ∃ path : Path, identifier.name = .path path ∧ Scanner.parts quote base = .ok path.parts ∧
      ∀ label ∈ identifier.alias?,
        ∃ written ∈ label?, Scanner.parts quote written = .ok [label] := by
  obtain ⟨parts, cut, rest⟩ := bind_eq_ok.1 read
  obtain ⟨plain, made, labelled⟩ := bind_eq_ok.1 rest
  obtain ⟨path, given, rfl⟩ := map_eq_ok.1 made
  obtain rfl : path.parts = parts := by
    rw [Path.ofParts] at given
    split at given
    · cases given
      rfl
    · cases given
  cases label? with
  | none =>
      cases labelled
      exact ⟨path, rfl, cut, by simp⟩
  | some written =>
      obtain ⟨labels, cutLabel, single⟩ := bind_eq_ok.1 labelled
      split at single
      · next part =>
        cases single
        refine ⟨path, name_withAlias _ part, cut, ?_⟩
        intro label given
        by_cases blank : part = ""
        · simp [withAlias, blank] at given
        · rw [alias_withAlias _ blank] at given
          cases given
          exact ⟨written, rfl, cutLabel⟩
      · cases single

theorem mem_of_plainWords? {found : List String} {base : String} {inline? : Option String}
    (form : plainWords? found = some (base, inline?)) :
    base ∈ found ∧ ∀ label ∈ inline?, label ∈ found := by
  unfold plainWords? at form
  split at form
  · cases form
    simp
  · cases form
    simp
  · split at form
    · cases form
      simp
    · cases form
  · cases form

theorem protect_trim (dialect : Dialect) (name : String) (label? : Option String)
    (asSource : Bool) :
    protect dialect (Text.trim name) label? asSource = protect dialect name label? asSource := by
  simp only [protect, Text.trim_trim]

/-- The text of a reference that a name is read as is read as that reference. -/
theorem protect_of_protect (protects : protect dialect name none false = .ok identifier) :
    protect dialect (identifier.render dialect) none false = .ok identifier := by
  have kept : ∀ text, render dialect (raw text) = text := fun text => String.append_empty
  rcases protect_eq_ok_iff.1 protects with expression | @⟨found, base, inline?, _, expression, read,
    form, texts⟩ | ⟨filled, expression, read, form, column⟩
  · change protect dialect (render dialect (raw (Text.trim name))) none false = _
    rw [kept, protect_trim, protects]
  · have uncalled : Uncalled (Text.trim name) := by
      simpa [isExpression, Uncalled] using expression
    have within : ∀ word ∈ found, ∀ parts, Scanner.parts dialect.quote word = .ok parts →
        ∀ part ∈ parts, Uncalled part := by
      intro word member parts cut part inside call
      exact uncalled ((single_of_words read member).2 _ (mem_of_mem_parts cut inside call))
    obtain ⟨path, named, cut, labels⟩ := path_of_texts texts
    obtain ⟨inBase, inInline⟩ := mem_of_plainWords? form
    have plain : identifier.isRaw = false := by rw [isRaw, named]
    refine protect_render plain ?_ ?_ false
    · intro part member
      rw [Identifier.parts, named] at member
      exact within base inBase _ cut part member
    · intro label member
      obtain ⟨written, given, cutLabel⟩ := labels label member
      exact within written (inInline written given) _ cutLabel label List.mem_cons_self
  · rw [kept, protect_trim, protects]

/-- Different references that names are read as have different texts. -/
theorem render_injective (read : protect dialect left none false = .ok identifier)
    (again : protect dialect right none false = .ok other)
    (same : identifier.render dialect = other.render dialect) : identifier = other := by
  have back := protect_of_protect read
  rw [same, protect_of_protect again] at back
  exact (Except.ok.inj back).symm

/-- Two names that are read as one reference. -/
def Alike (dialect : Dialect) (left right : String) : Prop :=
  ∃ identifier, protect dialect left none false = .ok identifier ∧
    protect dialect right none false = .ok identifier

theorem protectedText_eq_iff {leftText rightText : String}
    (read : protectedText dialect left = .ok leftText)
    (again : protectedText dialect right = .ok rightText) :
    leftText = rightText ↔ Alike dialect left right := by
  obtain ⟨identifier, protects, rfl⟩ := map_eq_ok.1 read
  obtain ⟨other, protects', rfl⟩ := map_eq_ok.1 again
  constructor
  · intro same
    obtain rfl := render_injective protects protects' same
    exact ⟨identifier, protects, protects'⟩
  · rintro ⟨reference, left, right⟩
    obtain rfl := Except.ok.inj (protects.symm.trans left)
    obtain rfl := Except.ok.inj (protects'.symm.trans right)
    rfl

/-! ## Bare names -/

/-- A name without quotes and blanks. -/
def Bare (dialect : Dialect) (name : String) : Prop :=
  dialect.quote ∉ name.toList ∧ ∀ char ∈ name.toList, Text.isBlank char = false

instance (dialect : Dialect) (name : String) : Decidable (Bare dialect name) :=
  @instDecidableAnd _ _ inferInstance (List.decidableBAll _ _)

/-- A bare name is read as a reference that it is the names of, with points between them. -/
theorem Bare.intercalate_parts (bare : Bare dialect name)
    (protects : protect dialect name none false = .ok identifier) :
    ['.'].intercalate (identifier.parts.map String.toList) = name.toList := by
  have trimmed : Text.trim name = name := Text.trim_of_visible bare.2
  rcases protect_eq_ok_iff.1 protects with expression | ⟨expression, read, form, texts⟩ |
    ⟨filled, expression, read, form, column⟩
  · change ['.'].intercalate ([Text.trim name].map String.toList) = _
    simp [trimmed]
  · have filled : name ≠ "" := by
      rintro rfl
      obtain rfl := Except.ok.inj read
      cases form
    rw [trimmed, words_of_visible filled bare.1 bare.2] at read
    obtain rfl := Except.ok.inj read
    cases form
    obtain ⟨path, named, cut, -⟩ := path_of_texts texts
    rw [Identifier.parts, named]
    exact intercalate_of_parts bare.1 cut
  · change ['.'].intercalate ([Text.trim name].map String.toList) = _
    simp [trimmed]

theorem Bare.eq_of_alike (bare : Bare dialect left) (bare' : Bare dialect right)
    (alike : Alike dialect left right) : left = right := by
  obtain ⟨identifier, protects, protects'⟩ := alike
  rw [← String.toList_inj, ← bare.intercalate_parts protects, bare'.intercalate_parts protects']

end Identifier

/-- Texts of columns are distinct just if no two of the columns are read as one reference. -/
theorem nodup_protectAll_iff {dialect : Dialect} {names texts : List String}
    (written : protectAll dialect names = .ok texts) :
    texts.Nodup ↔ names.Pairwise fun left right => ¬Identifier.Alike dialect left right := by
  have text : ∀ name ∈ names, Identifier.protectedText dialect name =
      .ok (shown (Identifier.protectedText dialect name)) := by
    intro name member
    obtain ⟨text, protects⟩ := ok_of_mapM written member
    rw [refuse_eq_ok.1 protects, shown]
  have texts_eq : texts = names.map fun name => shown (Identifier.protectedText dialect name) := by
    rw [← map_shown_of_mapM written]
    simp only [shown_refuse]
  rw [texts_eq, List.nodup_iff_pairwise_ne, List.pairwise_map]
  refine List.Pairwise.iff_of_mem fun {left right} inLeft inRight => not_congr ?_
  exact Identifier.protectedText_eq_iff (text left inLeft) (text right inRight)

theorem Binds.nodup_assign {binds : Binds} (distinct : (binds.map Prod.fst).Nodup) (name : String)
    (value : Scalar) : ((binds.assign name value).map Prod.fst).Nodup := by
  rw [names_assign, fresh_single]
  split
  · simpa using distinct
  · next unbound =>
    rw [List.nodup_append]
    refine ⟨distinct, List.nodup_singleton name, ?_⟩
    rintro held member other single rfl
    obtain rfl := List.mem_singleton.1 single
    exact unbound member

namespace Insert

open Identifier

variable {dialect : Dialect} {insert after : Insert}

/-! ## Columns of calls -/

/-- A call that binds no value leaves the bound values alone. -/
theorem Call.binds_eq {call : Call} (accepted : call.perform insert = .ok after)
    (noBind : ∀ name value, call ≠ .bind name value) : after.binds = insert.binds := by
  cases call with
  | bind name value => exact absurd rfl (noBind name value)
  | table name replaces =>
      obtain ⟨identifier, -, same⟩ := bind_eq_ok.1 accepted
      cases same
      rfl
  | columns names =>
      simp only [Call.perform, setColumns] at accepted
      repeat' split at accepted
      all_goals cases accepted <;> rfl
  | values set =>
      simp only [Call.perform, addValues] at accepted
      repeat' split at accepted
      all_goals cases accepted <;> rfl
  | returning lists =>
      simp only [Call.perform, setReturning] at accepted
      split at accepted
      · cases accepted
        rfl
      · cases accepted
  | updates pairs =>
      cases accepted
      rfl
  | ignores ignored =>
      cases accepted
      rfl
  | conflict target =>
      cases accepted
      rfl

theorem Call.nodup_binds {call : Call} (accepted : call.perform insert = .ok after)
    (distinct : (insert.binds.map Prod.fst).Nodup) : (after.binds.map Prod.fst).Nodup := by
  by_cases binds : ∃ name value, call = .bind name value
  · obtain ⟨name, value, rfl⟩ := binds
    obtain ⟨bound, assigned, same⟩ := bind_eq_ok.1 accepted
    cases same
    replace assigned := refuse_eq_ok.1 assigned
    rw [Binds.bind] at assigned
    split at assigned
    · cases assigned
    · cases assigned
      exact Binds.nodup_assign distinct _ value
  · push Not at binds
    rwa [Call.binds_eq accepted binds]

theorem nodup_binds_of_perform {calls : List Call} (accepted : perform calls insert = .ok after)
    (distinct : (insert.binds.map Prod.fst).Nodup) : (after.binds.map Prod.fst).Nodup := by
  induction calls generalizing insert with
  | nil =>
      cases accepted
      exact distinct
  | cons call calls induction =>
      obtain ⟨next, called, rested⟩ := bind_eq_ok.1 accepted
      exact induction rested (Call.nodup_binds called distinct)

theorem nodup_effectiveColumns {names : List String} (columns : insert.columns.Nodup)
    (binds : (insert.binds.map Prod.fst).Nodup) (effective : insert.effectiveColumns = .ok names) :
    names.Nodup := by
  unfold effectiveColumns at effective
  split at effective
  · cases effective
    exact columns
  · split at effective
    · cases effective
    · split at effective
      · cases effective
        exact binds
      · cases effective
        exact columns

/-- In whatever order an insertion was given its columns, value sets and bound values, no name is
twice among those that the columns of its text come from. Their texts are distinct just if no two
of them are read as one reference, and they are distinct wherever the names are bare. -/
theorem distinct_of_perform {calls : List Call} {sql : String}
    (accepted : perform calls (empty dialect) = .ok insert) (rendered : insert.render = .ok sql) :
    ∃ table names texts rest, insert.table? = some table ∧ insert.effectiveColumns = .ok names ∧
      protectAll insert.dialect names = .ok texts ∧
      sql = insert.opening ++ " " ++ table.render insert.dialect ++ " " ++ tuple texts ++
        " VALUES " ++ rest ∧
      names.Nodup ∧
      (texts.Nodup ↔ names.Pairwise fun left right => ¬Alike insert.dialect left right) ∧
      ((∀ name ∈ names, Bare insert.dialect name) → texts.Nodup) := by
  obtain ⟨table, names, texts, conflict, returned, named, effective, written, -, -, rfl⟩ :=
    render_eq_ok_iff.1 rendered
  have keeps : Keeps insert (valueSets calls) := (keeps_empty dialect).calls accepted
  have bound : (insert.binds.map Prod.fst).Nodup :=
    nodup_binds_of_perform accepted List.nodup_nil
  have distinct := nodup_effectiveColumns keeps.distinct bound effective
  have texts_iff := nodup_protectAll_iff written
  refine ⟨table, names, texts, insert.valuesText names ++ conflict ++
    clause "RETURNING" (commaList returned), named, effective, written, ?_, distinct, texts_iff, ?_⟩
  · simp only [String.append_assoc]
  · intro bare
    refine texts_iff.2 ((List.nodup_iff_pairwise_ne.1 distinct).imp_of_mem ?_)
    intro left right inLeft inRight apart alike
    exact apart ((bare left inLeft).eq_of_alike (bare right inRight) alike)

/-- Bare names that a column list brings into another order. -/
theorem distinct_of_perform_listed :
    let set : List (String × Expr) := [("id", .scalar (.int 1)), ("t.at", .param "at")]
    let calls : List Call :=
      [.bind ":at" (.int 2), .table "t" false, .values set, .columns ["t.at", " id "]]
    let text := "INSERT INTO \"t\" (\"t\".\"at\", \"id\") VALUES (:at, 1)"
    ∃ insert, perform calls (empty .postgres) = .ok insert ∧ insert.render = .ok text ∧
      (∀ name ∈ ["t.at", "id"], Bare .postgres name) ∧ ["t.at", "id"].Nodup ∧
      ∃ texts, protectAll .postgres ["t.at", "id"] = .ok texts ∧ texts.Nodup ∧
        ["t.at", "id"].Pairwise fun left right => ¬Alike .postgres left right := by
  intro set calls text
  have done : (perform calls (empty .postgres) >>= fun insert => do
      .ok (← insert.render, ← insert.effectiveColumns, insert.dialect)) =
      .ok (text, ["t.at", "id"], .postgres) := by
    decide +kernel
  obtain ⟨insert, accepted, rest⟩ := bind_eq_ok.1 done
  obtain ⟨sql, rendered, rest⟩ := bind_eq_ok.1 rest
  obtain ⟨columns, effective, rest⟩ := bind_eq_ok.1 rest
  simp only [Except.ok.injEq, Prod.mk.injEq] at rest
  obtain ⟨rfl, rfl, postgres⟩ := rest
  have bare : ∀ name ∈ ["t.at", "id"], Bare .postgres name := by decide
  obtain ⟨table, names, texts, tail, -, same, written, -, distinct, texts_iff, nodup⟩ :=
    distinct_of_perform accepted rendered
  obtain rfl := Except.ok.inj (effective.symm.trans same)
  rw [postgres] at written texts_iff nodup
  exact ⟨insert, accepted, rendered, bare, distinct, texts, written, nodup bare,
    texts_iff.1 (nodup bare)⟩

/-- A value set names one column with a blank and without it, and both are written. A column list
of the same names is refused. -/
theorem blank_repeats_column :
    let set : List (String × Expr) := [("id", .scalar (.int 1)), (" id", .scalar (.int 2))]
    let calls : List Call := [.table "t" false, .values set]
    (perform calls (empty .postgres) >>= render) =
        .ok "INSERT INTO \"t\" (\"id\", \"id\") VALUES (1, 2)" ∧
      (perform calls (empty .postgres) >>= effectiveColumns) = .ok ["id", " id"] ∧
      Alike .postgres "id" " id" ∧
      protectAll .postgres ["id", " id"] = .ok ["\"id\"", "\"id\""] ∧
      (empty .postgres).setColumns ["id", " id"] = .error (.invalid (.repeatedColumn "id")) := by
  intro set calls
  have alike : Alike .postgres "id" " id" := by
    refine ⟨{ name := .path ⟨["id"], by decide, by decide⟩ }, ?_⟩
    decide +kernel
  exact ⟨by decide +kernel, by decide +kernel, alike, by decide +kernel, rfl⟩

end Insert

end SqlClient
