import SqlClient.Proofs.Escaped

/-!
# Bindings of a tree

The bindings of a selection and of all selections inside it are merged into one list. This file
follows the merge through a whole tree: what was bound stays bound, and every slot of an escaped
tree finds under its name the value bound where it stands, or one that agrees with it.
-/

namespace SqlClient

/-! ## All bindings -/

mutual

/-- The bindings of the selections inside a condition. -/
def Condition.bindings : Condition → Binds
  | .raw _ => []
  | .group _ members => Condition.allBindings members
  | .leaf _ _ operand => Operand.bindings operand

/-- The bindings of the selections inside conditions. -/
def Condition.allBindings : List Condition → Binds
  | [] => []
  | member :: rest => Condition.bindings member ++ Condition.allBindings rest

/-- The bindings of the selections inside an operand. -/
def Operand.bindings : Operand → Binds
  | .none => []
  | .value _ => []
  | .list _ => []
  | .column _ => []
  | .subquery select => Select.bindings select
  | .nested condition => Condition.bindings condition

/-- The bindings of the selections inside joins. -/
def Join.allBindings : List Join → Binds
  | [] => []
  | join :: rest => Join.bindings join ++ Join.allBindings rest

/-- The bindings of the selections inside a join. -/
def Join.bindings : Join → Binds
  | ⟨_, _, condition⟩ => Condition.bindings condition

/-- The bindings of the selections read from. -/
def Source.allBindings : List Source → Binds
  | [] => []
  | source :: rest => Source.bindings source ++ Source.allBindings rest

/-- The bindings of a selection read from. -/
def Source.bindings : Source → Binds
  | .table _ => []
  | .subquery select _ => Select.bindings select

/-- The bindings of a selection and of every selection inside it. -/
def Select.bindings : Select → Binds
  | ⟨_, _, _, _, sources, joins, filter, _, having, _, _, _, _, binds⟩ =>
      binds ++ (Join.allBindings joins ++ Condition.bindings filter ++ Condition.bindings having ++
        Source.allBindings sources)

end

/-! ## One merge -/

theorem Binary64.agrees_iff {left right : Binary64} :
    left.agrees right = true ↔ left.magnitude ≠ .nan ∧ right.magnitude ≠ .nan ∧
      (((∃ exponent, left.magnitude = .finite 0 exponent) ∧
        ∃ exponent, right.magnitude = .finite 0 exponent) ∨ left = right) := by
  unfold agrees
  split
  · next absent => simp [absent]
  · next absent _ => simp [absent]
  · next first second => simp [first, second]
  · next number other zeros =>
    rw [beq_iff_eq]
    constructor
    · intro same
      exact ⟨number, other, Or.inr same⟩
    · rintro ⟨-, -, ⟨⟨first, isZero⟩, second, isZero'⟩ | same⟩
      · exact (zeros first second isZero isZero').elim
      · exact same

theorem Binary64.agrees_trans {first second third : Binary64}
    (left : first.agrees second = true) (right : second.agrees third = true) :
    first.agrees third = true := by
  rw [Binary64.agrees_iff] at left right ⊢
  obtain ⟨number, -, same⟩ := left
  obtain ⟨-, number', same'⟩ := right
  refine ⟨number, number', ?_⟩
  rcases same with ⟨zero, zero'⟩ | rfl
  · rcases same' with ⟨-, zero''⟩ | rfl
    · exact Or.inl ⟨zero, zero''⟩
    · exact Or.inl ⟨zero, zero'⟩
  · exact same'

namespace Scalar

/-- A value that is the same as another, or agrees with it. -/
def StandsFor (value other : Scalar) : Prop :=
  value = other ∨ value.agrees other = true

/-- Values that agree are two numbers that agree, or one value. -/
theorem agrees_cases {left right : Scalar} (agreed : left.agrees right = true) :
    (∃ first second, left = .float first ∧ right = .float second ∧ first.agrees second = true) ∨
      left = right := by
  unfold agrees at agreed
  split at agreed
  · next first second => exact Or.inl ⟨first, second, rfl, rfl, agreed⟩
  · exact Or.inr (by simpa using agreed)

theorem agrees_trans {first second third : Scalar} (left : first.agrees second = true)
    (right : second.agrees third = true) : first.agrees third = true := by
  rcases agrees_cases left with ⟨x, y, rfl, rfl, agreed⟩ | rfl
  · rcases agrees_cases right with ⟨y', z, same, rfl, agreed'⟩ | rfl
    · obtain rfl := Scalar.float.inj same
      exact Binary64.agrees_trans agreed agreed'
    · exact left
  · exact right

theorem StandsFor.trans {first second third : Scalar} (left : first.StandsFor second)
    (right : second.StandsFor third) : first.StandsFor third := by
  rcases left with rfl | agreed
  · exact right
  · rcases right with rfl | agreed'
    · exact Or.inr agreed
    · exact Or.inr (agrees_trans agreed agreed')

end Scalar

namespace Binds

/-- Bindings under which every name keeps the value that it has under others. -/
def Extends (merged binds : Binds) : Prop :=
  ∀ name value, binds.find? name = some value → merged.find? name = some value

theorem extends_refl (binds : Binds) : Extends binds binds :=
  fun _ _ found => found

theorem Extends.trans {last middle first : Binds} (later : Extends last middle)
    (earlier : Extends middle first) : Extends last first :=
  fun name value found => later name value (earlier name value found)

theorem find?_append (left right : Binds) (name : String) :
    find? (left ++ right) name = (find? left name).or (find? right name) := by
  induction left with
  | nil => rfl
  | cons entry left induction =>
      simp only [List.cons_append, find?]
      split
      · rfl
      · exact induction

theorem mem_of_find? {binds : Binds} {name : String} {value : Scalar}
    (found : binds.find? name = some value) : (name, value) ∈ binds := by
  induction binds with
  | nil => simp [find?] at found
  | cons entry rest induction =>
      obtain ⟨head, held⟩ := entry
      rw [find?] at found
      split at found
      · next same =>
        obtain rfl := Option.some.inj found
        rw [same]
        exact List.mem_cons_self
      · exact List.mem_cons_of_mem _ (induction found)

theorem not_mem_of_find? {binds : Binds} {name : String} (absent : binds.find? name = none) :
    name ∉ binds.map Prod.fst := by
  induction binds with
  | nil => simp
  | cons entry rest induction =>
      rw [find?] at absent
      split at absent
      · simp at absent
      · next different =>
        rw [List.map_cons, List.mem_cons, not_or]
        exact ⟨fun same => different same.symm, induction absent⟩

/-- What one merge does: the first bindings stay, every nested one has a value that stands for its
own, and nothing else is bound. -/
theorem merge_spec {binds nested merged : Binds} (joined : binds.merge nested = .ok merged) :
    Extends merged binds ∧
      (∀ entry ∈ nested, ∃ value, merged.find? entry.1 = some value ∧ value.StandsFor entry.2) ∧
      ∀ entry ∈ merged, entry ∈ binds ∨ entry ∈ nested := by
  fun_induction merge binds nested with
  | case1 binds =>
      obtain rfl := Except.ok.inj joined
      exact ⟨extends_refl binds, by simp, fun entry member => Or.inl member⟩
  | case2 binds name value rest fresh induction =>
      obtain ⟨extended, covered, origin⟩ := induction joined
      have kept : merged.find? name = some value := by
        apply extended
        rw [find?_append, fresh]
        simp [find?]
      refine ⟨?_, ?_, ?_⟩
      · intro other held found
        apply extended
        rw [find?_append, found]
        rfl
      · intro entry member
        rcases List.mem_cons.1 member with rfl | later
        · exact ⟨value, kept, Or.inl rfl⟩
        · exact covered entry later
      · intro entry member
        rcases origin entry member with old | later
        · rcases List.mem_append.1 old with old | new
          · exact Or.inl old
          · exact Or.inr (List.mem_cons.2 (Or.inl (List.mem_singleton.1 new)))
        · exact Or.inr (List.mem_cons_of_mem _ later)
  | case3 binds name value rest bound found agreed induction =>
      obtain ⟨extended, covered, origin⟩ := induction joined
      refine ⟨extended, ?_, ?_⟩
      · intro entry member
        rcases List.mem_cons.1 member with rfl | later
        · exact ⟨bound, extended name bound found, Or.inr agreed⟩
        · exact covered entry later
      · intro entry member
        exact (origin entry member).imp_right (List.mem_cons_of_mem _)
  | case4 => simp at joined

/-- A merge that starts without bindings binds no name twice. -/
theorem nodup_merge {binds nested merged : Binds} (joined : binds.merge nested = .ok merged)
    (distinct : (binds.map Prod.fst).Nodup) : (merged.map Prod.fst).Nodup := by
  fun_induction merge binds nested with
  | case1 binds =>
      obtain rfl := Except.ok.inj joined
      exact distinct
  | case2 binds name value rest fresh induction =>
      apply induction joined
      rw [List.map_append, List.nodup_append]
      refine ⟨distinct, by simp, ?_⟩
      intro other member head same
      obtain rfl : head = name := by simpa using same
      rintro rfl
      exact not_mem_of_find? fresh member
  | case3 binds name value rest bound found agreed induction => exact induction joined distinct
  | case4 => simp at joined

/-- Slots that all have a value in merged bindings, each of which stands for a value among those
known for the name of its slot. -/
def Resolves (merged known : Binds) (slots : List (String × Option Scalar)) : Prop :=
  ∀ slot ∈ slots, ∃ bound value, slot.2 = some bound ∧ (slot.1, bound) ∈ known ∧
    merged.find? slot.1 = some value ∧ value.StandsFor bound

theorem resolves_nil (merged known : Binds) : Resolves merged known [] := by
  simp [Resolves]

theorem resolves_append {merged known : Binds} {left right : List (String × Option Scalar)}
    (first : Resolves merged known left) (second : Resolves merged known right) :
    Resolves merged known (left ++ right) := by
  intro slot member
  rcases List.mem_append.1 member with here | there
  · exact first slot here
  · exact second slot there

/-- Slots stay resolved under more bindings. -/
theorem Resolves.mono {merged later known all : Binds} {slots : List (String × Option Scalar)}
    (resolved : Resolves merged known slots) (extended : Extends later merged)
    (more : known ⊆ all) : Resolves later all slots := by
  intro slot member
  obtain ⟨bound, value, filled, isKnown, found, stands⟩ := resolved slot member
  exact ⟨bound, value, filled, more isKnown, extended slot.1 value found, stands⟩

end Binds

/-! ## The merge of a tree -/

open Binds

/-- What merging the bindings of a tree into others does, when the slots of the tree are given. -/
structure Merges (start merged inner known : Binds) (slots : List (String × Option Scalar)) :
    Prop where
  /-- What was bound stays bound. -/
  extends_start : Extends merged start
  /-- Every slot has a value. -/
  resolves : Resolves merged known slots
  /-- Nothing else is bound. -/
  origin : ∀ entry ∈ merged, entry ∈ start ∨ entry ∈ inner

theorem merges_nothing (start known : Binds) : Merges start start [] known [] :=
  ⟨extends_refl start, resolves_nil start known, fun _ member => Or.inl member⟩

/-- Two merges in turn. -/
theorem Merges.append {start middle merged inner inner' known : Binds}
    {slots slots' : List (String × Option Scalar)} (first : Merges start middle inner known slots)
    (second : Merges middle merged inner' known slots') :
    Merges start merged (inner ++ inner') known (slots ++ slots') := by
  refine ⟨second.extends_start.trans first.extends_start, ?_, ?_⟩
  · exact resolves_append (first.resolves.mono second.extends_start (List.Subset.refl known))
      second.resolves
  · intro entry member
    rcases second.origin entry member with earlier | inside
    · rcases first.origin entry earlier with outside | inside
      · exact Or.inl outside
      · exact Or.inr (List.mem_append_left _ inside)
    · exact Or.inr (List.mem_append_right _ inside)

theorem merges_expr {binds start known : Binds} {dialect : Dialect} {expr : Expr}
    (escaped : expr.isEscaped binds = true) (bound : Extends start binds) (own : binds ⊆ known) :
    Merges start start [] known (expr.template dialect binds).slots := by
  refine ⟨extends_refl start, ?_, fun _ member => Or.inl member⟩
  cases expr with
  | scalar value => simp [Expr.template, resolves_nil]
  | verbatim sql =>
      rw [Expr.isEscaped] at escaped
      rw [Expr.template]
      cases named : paramName? sql with
      | none => simp [named] at escaped
      | some name =>
        rw [named] at escaped
        obtain ⟨value, found⟩ := Option.isSome_iff_exists.1 escaped
        intro slot member
        obtain rfl : slot = (name, binds.find? name) := by
          simpa [Template.slots] using member
        exact ⟨value, value, found, own (mem_of_find? found), bound name value found, Or.inl rfl⟩

theorem merges_exprs {binds start known : Binds} {dialect : Dialect} {exprs : List Expr}
    (escaped : exprs.all (Expr.isEscaped binds) = true) (bound : Extends start binds)
    (own : binds ⊆ known) :
    Merges start start [] known ((exprs.map (Expr.template dialect binds)).flatMap Template.slots) := by
  induction exprs with
  | nil => exact merges_nothing start known
  | cons expr rest induction =>
      simp only [List.all_cons, Bool.and_eq_true] at escaped
      exact (merges_expr escaped.1 bound own).append (induction escaped.2)

/-- The bindings gathered inside a selection, merged into others. -/
theorem Merges.into {binds gathered start merged inner known : Binds}
    {slots : List (String × Option Scalar)} (inside : Merges binds gathered inner known slots)
    (joined : start.merge gathered = .ok merged) :
    Merges start merged (binds ++ inner) known slots := by
  obtain ⟨extended, covered, origin⟩ := merge_spec joined
  refine ⟨extended, ?_, ?_⟩
  · intro slot member
    obtain ⟨bound, value, filled, isKnown, found, stands⟩ := inside.resolves slot member
    obtain ⟨last, found', stands'⟩ := covered (slot.1, value) (mem_of_find? found)
    exact ⟨bound, last, filled, isKnown, found', stands'.trans stands⟩
  · intro entry member
    rcases origin entry member with outside | gathered
    · exact Or.inl outside
    · exact Or.inr (List.mem_append.2 (inside.origin entry gathered))

mutual

theorem Condition.merges {dialect : Dialect} {binds start merged known : Binds} :
    (condition : Condition) → condition.Escaped dialect binds → Extends start binds →
      binds ⊆ known → condition.bindings ⊆ known → condition.mergeBinds start = .ok merged →
        Merges start merged condition.bindings known (condition.template dialect binds).slots
  | .raw _, escaped, _, _, _, _ => escaped.elim
  | .group _ members, escaped, bound, own, inner, joined => by
      rw [Condition.mergeBinds] at joined
      rw [Condition.bindings] at inner ⊢
      rw [Condition.template, Template.slots_joinMembers, Template.flatMap_slots_filter]
      exact Condition.allMerges members escaped bound own inner joined
  | .leaf _ _ operand, escaped, bound, own, inner, joined => by
      rw [Condition.mergeBinds] at joined
      rw [Condition.bindings] at inner ⊢
      simpa [Condition.template] using
        Operand.merges operand escaped.2 bound own inner joined

theorem Condition.allMerges {dialect : Dialect} {binds start merged known : Binds} :
    (members : List Condition) → Condition.AllEscaped dialect binds members →
      Extends start binds → binds ⊆ known → Condition.allBindings members ⊆ known →
        Condition.mergeAll members start = .ok merged →
          Merges start merged (Condition.allBindings members) known
            ((Condition.templates dialect binds members).flatMap Template.slots)
  | [], _, _, _, _, joined => by
      simp only [Condition.mergeAll, Except.ok.injEq] at joined
      subst joined
      simpa [Condition.allBindings, Condition.templates] using merges_nothing start known
  | member :: rest, escaped, bound, own, inner, joined => by
      simp only [Condition.mergeAll, bind_eq_ok] at joined
      obtain ⟨middle, first, later⟩ := joined
      rw [Condition.allBindings, List.append_subset] at inner
      have here := Condition.merges member escaped.1 bound own inner.1 first
      have there := Condition.allMerges rest escaped.2 (here.extends_start.trans bound) own inner.2
        later
      exact here.append there

theorem Operand.merges {dialect : Dialect} {binds start merged known : Binds}
    {operator : Operator} : (operand : Operand) → operand.Escaped dialect binds →
      Extends start binds → binds ⊆ known → operand.bindings ⊆ known →
        operand.mergeBinds start = .ok merged →
          Merges start merged operand.bindings known
            (operand.template dialect binds operator).slots
  | .none, _, _, _, _, joined => by
      simp only [Operand.mergeBinds, Except.ok.injEq] at joined
      subst joined
      simpa [Operand.bindings, Operand.template] using merges_nothing start known
  | .value expr, escaped, bound, own, _, joined => by
      simp only [Operand.mergeBinds, Except.ok.injEq] at joined
      subst joined
      rw [Operand.bindings]
      by_cases absent : expr = .scalar .null
      · subst absent
        simpa [Operand.template] using merges_nothing start known
      · rw [Operand.template_value absent, Template.slots_append, Template.slots_ofText]
        exact merges_expr escaped bound own
  | .list exprs, escaped, bound, own, _, joined => by
      simp only [Operand.mergeBinds, Except.ok.injEq] at joined
      subst joined
      simpa [Operand.bindings, Operand.template] using merges_exprs escaped bound own
  | .column other, _, _, _, _, joined => by
      simp only [Operand.mergeBinds, Except.ok.injEq] at joined
      subst joined
      simpa [Operand.bindings, Operand.template] using merges_nothing start known
  | .subquery select, escaped, _, _, inner, joined => by
      rw [Operand.mergeBinds] at joined
      rw [Operand.bindings] at inner ⊢
      simpa [Operand.template] using Select.merges select escaped inner joined
  | .nested condition, escaped, bound, own, inner, joined => by
      rw [Operand.mergeBinds] at joined
      rw [Operand.bindings] at inner ⊢
      simpa [Operand.template] using Condition.merges condition escaped bound own inner joined

theorem Join.merges {dialect : Dialect} {binds start merged known : Binds} :
    (join : Join) → join.Escaped dialect binds → Extends start binds → binds ⊆ known →
      join.bindings ⊆ known → join.mergeBinds start = .ok merged →
        Merges start merged join.bindings known (join.template dialect binds).slots
  | ⟨_, _, condition⟩, escaped, bound, own, inner, joined => by
      rw [Join.mergeBinds] at joined
      rw [Join.bindings] at inner ⊢
      simpa [Join.template] using Condition.merges condition escaped.2 bound own inner joined

theorem Join.allMerges {dialect : Dialect} {binds start merged known : Binds} :
    (joins : List Join) → Join.AllEscaped dialect binds joins → Extends start binds →
      binds ⊆ known → Join.allBindings joins ⊆ known → Join.mergeAll joins start = .ok merged →
        Merges start merged (Join.allBindings joins) known
          (Join.templates dialect binds joins).slots
  | [], _, _, _, _, joined => by
      simp only [Join.mergeAll, Except.ok.injEq] at joined
      subst joined
      simpa [Join.allBindings, Join.templates] using merges_nothing start known
  | join :: rest, escaped, bound, own, inner, joined => by
      simp only [Join.mergeAll, bind_eq_ok] at joined
      obtain ⟨middle, first, later⟩ := joined
      rw [Join.allBindings, List.append_subset] at inner
      have here := Join.merges join escaped.1 bound own inner.1 first
      have there := Join.allMerges rest escaped.2 (here.extends_start.trans bound) own inner.2
        later
      rw [Join.allBindings, Join.templates, Template.slots_append]
      exact here.append there

theorem Source.merges {dialect : Dialect} {start merged known : Binds} :
    (source : Source) → source.Escaped dialect → source.bindings ⊆ known →
      source.mergeBinds start = .ok merged →
        Merges start merged source.bindings known (source.template dialect).slots
  | .table _, _, _, joined => by
      simp only [Source.mergeBinds, Except.ok.injEq] at joined
      subst joined
      simpa [Source.bindings, Source.template] using merges_nothing start known
  | .subquery select _, escaped, inner, joined => by
      rw [Source.mergeBinds] at joined
      rw [Source.bindings] at inner ⊢
      simpa [Source.template] using Select.merges select escaped.2 inner joined

theorem Source.allMerges {dialect : Dialect} {start merged known : Binds} :
    (sources : List Source) → Source.AllEscaped dialect sources →
      Source.allBindings sources ⊆ known → Source.mergeAll sources start = .ok merged →
        Merges start merged (Source.allBindings sources) known
          ((Source.templates dialect sources).flatMap Template.slots)
  | [], _, _, joined => by
      simp only [Source.mergeAll, Except.ok.injEq] at joined
      subst joined
      simpa [Source.allBindings, Source.templates] using merges_nothing start known
  | source :: rest, escaped, inner, joined => by
      simp only [Source.mergeAll, bind_eq_ok] at joined
      obtain ⟨middle, first, later⟩ := joined
      rw [Source.allBindings, List.append_subset] at inner
      have here := Source.merges source escaped.1 inner.1 first
      have there := Source.allMerges rest escaped.2 inner.2 later
      exact here.append there

/-- Merging the bindings of an escaped selection gives every slot of its template a value. -/
theorem Select.merges {start merged known : Binds} :
    (select : Select) → select.Escaped → select.bindings ⊆ known →
      select.mergeBinds start = .ok merged →
        Merges start merged select.bindings known select.template.slots
  | ⟨dialect, distinct, opening?, columns, sources, joins, filter, groupBy, having, orderBy,
      limit?, offset?, lock?, binds⟩, escaped, inner, joined => by
      simp only [Select.mergeBinds, bind_eq_ok] at joined
      obtain ⟨afterJoins, mergedJoins, afterFilter, mergedFilter, afterHaving, mergedHaving,
        gathered, mergedSources, merge⟩ := joined
      obtain ⟨rfl, -, escapedSources, escapedJoins, escapedFilter, -, escapedHaving, -⟩ := escaped
      simp only [Select.bindings, List.append_subset] at inner
      obtain ⟨own, ⟨⟨innerJoins, innerFilter⟩, innerHaving⟩, innerSources⟩ := inner
      have joins' := Join.allMerges joins escapedJoins (extends_refl binds) own innerJoins
        mergedJoins
      have filter' := Condition.merges filter escapedFilter joins'.extends_start own innerFilter
        mergedFilter
      have having' := Condition.merges having escapedHaving
        (filter'.extends_start.trans joins'.extends_start) own innerHaving mergedHaving
      have sources' := Source.allMerges sources escapedSources innerSources mergedSources
      have whole := (((joins'.append filter').append having').append sources').into merge
      refine ⟨whole.extends_start, ?_, whole.origin⟩
      have listed : Template.slots (if columns.isEmpty then .ofText "*"
          else .commaList (columns.map (columnTemplate dialect))) = [] := by
        split <;> simp [List.flatMap_map]
      -- The sources come first in the text and last in the merge.
      intro slot member
      apply whole.resolves slot
      simp only [Select.template, Template.slots_append, Template.slots_ofText, listed,
        Template.slots_commaList, Template.slots_clause, slots_termTemplate, List.nil_append,
        List.append_nil, List.mem_append] at member ⊢
      rcases member with ((inSources | inJoins) | inFilter) | inHaving
      · exact Or.inr inSources
      · exact Or.inl (Or.inl (Or.inl inJoins))
      · exact Or.inl (Or.inl (Or.inr inFilter))
      · exact Or.inl (Or.inr inHaving)

end

end SqlClient
