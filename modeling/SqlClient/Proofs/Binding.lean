import Mathlib.Data.List.Forall2
import SqlClient.Proofs.Bindings
import SqlClient.Statement.Select

/-!
# Bound placeholders

Binding the parameters of a rendered selection numbers the slots of its template and nothing else,
and lines up the values of the slots. The template joins the three passes over a statement: the text
is its characters, the scan gives back its glyphs and the merge gives its slots their values.
-/

namespace SqlClient

open Piece

namespace Params

theorem bindNamed_fixed (dialect : Dialect) (pairs : List (String × Scalar)) (position : Nat)
    (chars : List Char) (rest : List Piece) :
    bindNamed dialect pairs position (.fixed chars :: rest) =
      (bindNamed dialect pairs position rest).map fun bound => (chars ++ bound.1, bound.2) := by
  rw [bindNamed]
  cases bindNamed dialect pairs position rest <;> rfl

/-- A piece may be cut into single characters. -/
theorem bindNamed_split (dialect : Dialect) (pairs : List (String × Scalar)) (position : Nat)
    (piece : Piece) (rest : List Piece) :
    bindNamed dialect pairs position (piece.split ++ rest) =
      bindNamed dialect pairs position (piece :: rest) := by
  cases piece with
  | name letters => rfl
  | mark => rfl
  | fixed chars =>
      simp only [split]
      induction chars with
      | nil =>
          rw [List.map_nil, List.nil_append, bindNamed_fixed]
          cases bindNamed dialect pairs position rest <;> rfl
      | cons char chars induction =>
          rw [List.map_cons, List.cons_append, bindNamed_fixed, induction, bindNamed_fixed,
            bindNamed_fixed]
          cases bindNamed dialect pairs position rest <;> rfl

/-- The rest of the pieces may be replaced by pieces that are bound alike. -/
theorem bindNamed_congr {dialect : Dialect} {pairs : List (String × Scalar)} {left right : List Piece}
    (alike : ∀ position, bindNamed dialect pairs position left =
      bindNamed dialect pairs position right) (position : Nat) (piece : Piece) :
    bindNamed dialect pairs position (piece :: left) =
      bindNamed dialect pairs position (piece :: right) := by
  cases piece <;> simp only [bindNamed, alike]

theorem bindNamed_flatMap_split (dialect : Dialect) (pairs : List (String × Scalar))
    (position : Nat) (pieces : List Piece) :
    bindNamed dialect pairs position (pieces.flatMap split) =
      bindNamed dialect pairs position pieces := by
  induction pieces generalizing position with
  | nil => rfl
  | cons piece rest induction =>
      rw [List.flatMap_cons, bindNamed_split]
      exact bindNamed_congr induction position piece

/-- Binding the glyphs of a template numbers its slots and takes the values of their names. -/
theorem bindNamed_template {dialect : Dialect} {pairs : List (String × Scalar)}
    {sends : Scalar → String × Option Scalar → Prop} (template : Template)
    (valued : ∀ slot ∈ template.slots, ∃ value, lastValue? pairs slot.1 = some value ∧
      sends value slot) (position : Nat) :
    ∃ values, bindNamed dialect pairs position (template.map Glyph.piece) =
        .ok (template.numbered dialect position, values) ∧
      List.Forall₂ sends values template.slots := by
  induction template generalizing position with
  | nil => exact ⟨[], rfl, .nil⟩
  | cons glyph rest induction =>
      cases glyph with
      | plain char =>
          obtain ⟨values, bound, matched⟩ := induction valued position
          refine ⟨values, ?_, matched⟩
          rw [List.map_cons, Glyph.piece, bindNamed_fixed, bound]
          rfl
      | slot name bound? =>
          have filled : ∀ slot ∈ (name, bound?) :: Template.slots rest, ∃ value,
              lastValue? pairs slot.1 = some value ∧ sends value slot := valued
          rw [List.forall_mem_cons] at filled
          obtain ⟨⟨value, found, sent⟩, later⟩ := filled
          obtain ⟨values, bound, matched⟩ := induction later (position + 1)
          refine ⟨value :: values, ?_, .cons sent matched⟩
          simp only [List.map_cons, Glyph.piece, bindNamed, String.ofList_toList, found, bound]
          rfl

/-- Where no name is bound twice, the last value of a name is its only one. -/
theorem lastValue?_of_find? {pairs : Binds} (distinct : (pairs.map Prod.fst).Nodup) {name : String}
    {value : Scalar} (found : pairs.find? name = some value) :
    lastValue? pairs name = some value := by
  induction pairs with
  | nil => simp [Binds.find?] at found
  | cons entry rest induction =>
      obtain ⟨head, held⟩ := entry
      rw [List.map_cons, List.nodup_cons] at distinct
      rw [lastValue?, List.reverse_cons, List.lookup_append]
      rw [Binds.find?] at found
      split at found
      · next same =>
        subst same
        have absent : rest.reverse.lookup head = Option.none := by
          rw [List.lookup_eq_none_iff]
          intro other member
          rw [bne_iff_ne]
          rintro rfl
          exact distinct.1 (List.mem_map.2 ⟨other, List.mem_reverse.1 member, rfl⟩)
        rw [absent]
        simpa using found
      · have later : rest.reverse.lookup name = some value := induction distinct.2 found
        rw [later]
        rfl

end Params

namespace Template

theorem numbered_of_slots_eq_nil (dialect : Dialect) (position : Nat) {template : Template}
    (empty : template.slots = []) : template.numbered dialect position = template.text := by
  induction template with
  | nil => rfl
  | cons glyph rest induction =>
      cases glyph with
      | plain char => exact congrArg (char :: ·) (induction empty)
      | slot name bound? => simp [slots] at empty

/-- The scan of the text of a legible template. -/
theorem scan_text {dialect : Dialect} {template : Template} (legible : template.Legible dialect) :
    scan dialect template.text = template.map Glyph.piece := by
  simpa using legible [] clear_nil

end Template

namespace Binds

/-- The number of places in which a name is bound. -/
def places (binds : Binds) (name : String) : Nat :=
  (binds.map Prod.fst).count name

/-- A value to send for a slot is the value bound where the slot stands; where the name is bound in
several places it may also be one that agrees with it. -/
def Sends (bindings : Binds) (value : Scalar) (slot : String × Option Scalar) : Prop :=
  ∃ own, slot.2 = some own ∧
    (value = own ∨ value.agrees own = true ∧ 1 < bindings.places slot.1)

/-- Two different values of a name are bound in different places. -/
theorem one_lt_places {binds : Binds} {name : String} {first second : Scalar}
    (left : (name, first) ∈ binds) (right : (name, second) ∈ binds) (different : first ≠ second) :
    1 < binds.places name := by
  obtain ⟨before, after, rfl⟩ := List.append_of_mem left
  have elsewhere : (name, second) ∈ before ++ after := by
    simp only [List.mem_append, List.mem_cons, Prod.mk.injEq, true_and, different.symm,
      false_or] at right ⊢
    exact right
  have counted : 0 < ((before ++ after).map Prod.fst).count name :=
    List.count_pos_iff.2 (List.mem_map_of_mem elsewhere)
  simp only [places, List.map_append, List.map_cons, List.count_append, List.count_cons_self]
    at counted ⊢
  omega

end Binds

/-- What holds of the slots of an escaped selection once its bindings are merged. -/
theorem Select.sends_of_find? {select : Select} {merged : Binds} (escaped : select.Escaped)
    (joined : select.mergeBinds [] = .ok merged) {slot : String × Option Scalar}
    (member : slot ∈ select.template.slots) :
    ∃ value, merged.find? slot.1 = some value ∧ select.bindings.Sends value slot := by
  have whole := Select.merges select escaped (List.Subset.refl select.bindings) joined
  obtain ⟨own, value, filled, isKnown, found, stands⟩ := whole.resolves slot member
  refine ⟨value, found, own, filled, ?_⟩
  by_cases same : value = own
  · exact Or.inl same
  · have isBound : (slot.1, value) ∈ select.bindings :=
      (whole.origin _ (Binds.mem_of_find? found)).resolve_left (by simp)
    exact Or.inr ⟨stands.resolve_left same, Binds.one_lt_places isBound isKnown same⟩

/-- The merged bindings of a selection bind no name twice. -/
theorem Select.nodup_mergeBinds {select : Select} {merged : Binds}
    (joined : select.mergeBinds [] = .ok merged) : (merged.map Prod.fst).Nodup := by
  obtain ⟨dialect, distinct, opening?, columns, sources, joins, filter, groupBy, having, orderBy,
    limit?, offset?, lock?, binds⟩ := select
  simp only [Select.mergeBinds, bind_eq_ok] at joined
  obtain ⟨_, _, _, _, _, _, gathered, _, merge⟩ := joined
  exact Binds.nodup_merge merge List.nodup_nil

/-- The bindings of a rendered selection can be merged. -/
theorem Select.mergeBinds_of_render {select : Select} {sql : String}
    (rendered : select.render = .ok sql) :
    ∃ merged, select.mergeBinds [] = .ok merged ∧ select.params = .ofNamed merged := by
  obtain ⟨dialect, distinct, opening?, columns, sources, joins, filter, groupBy, having, orderBy,
    limit?, offset?, lock?, binds⟩ := select
  rw [Select.render] at rendered
  split at rendered
  · simp at rendered
  · simp only [bind_eq_ok] at rendered
    obtain ⟨merged, joined, -⟩ := rendered
    rw [refuse_eq_ok] at joined
    exact ⟨merged, joined, by rw [Select.params, joined, paramsOf]⟩

/-- The parameters of a rendered escaped selection can be bound to its text. The text to send is
the rendered text with its slots numbered in order, and for every slot the value bound where the
slot stands is sent. -/
theorem Select.bind_render {select : Select} (escaped : select.Escaped) {sql : String}
    (rendered : select.render = .ok sql) :
    ∃ text values, select.params.bind select.dialect sql = .ok (text, values) ∧
      sql.toList = select.template.text ∧
      text.toList = select.template.numbered select.dialect 1 ∧
      List.Forall₂ select.bindings.Sends values select.template.slots := by
  have written := Select.text_template select rendered
  have legible := Select.legible_template select escaped rendered
  obtain ⟨merged, joined, params⟩ := Select.mergeBinds_of_render rendered
  have sends : ∀ slot ∈ select.template.slots, ∃ value, merged.find? slot.1 = some value ∧
      select.bindings.Sends value slot :=
    fun _ member => Select.sends_of_find? escaped joined member
  by_cases none : merged = []
  · -- Nothing is bound, so there are no slots and the text is sent as it is.
    have empty : select.template.slots = [] := by
      apply List.eq_nil_iff_forall_not_mem.2
      intro slot member
      obtain ⟨value, found, -⟩ := sends slot member
      simp [none, Binds.find?] at found
    refine ⟨sql, [], ?_, written.symm, ?_, ?_⟩
    · rw [params, none]
      rfl
    · rw [Template.numbered_of_slots_eq_nil _ _ empty, written]
    · rw [empty]
      exact .nil
  · have distinct := Select.nodup_mergeBinds joined
    have valued : ∀ slot ∈ select.template.slots, ∃ value,
        Params.lastValue? merged slot.1 = some value ∧ select.bindings.Sends value slot := by
      intro slot member
      obtain ⟨value, found, sent⟩ := sends slot member
      exact ⟨value, Params.lastValue?_of_find? distinct found, sent⟩
    obtain ⟨values, bound, matched⟩ := Params.bindNamed_template select.template valued 1
    refine ⟨String.ofList (select.template.numbered select.dialect 1), values, ?_, written.symm,
      String.toList_ofList, matched⟩
    have named : select.params = .named merged := by
      rw [params, Params.ofNamed, if_neg]
      simpa using none
    rw [named, Params.bind, ← Params.bindNamed_flatMap_split, ← scan, ← written,
      Template.scan_text legible, bound]
    rfl

theorem quotedPart_ne : ∀ part ∈ ["t:?"], part ≠ "" := by simp

/-- A selection from a selection, with quotes and marks of placeholders in its names and its text. The
two values of the parameter agree without being the same. -/
def quotedSelect : Select :=
  let inner : Select :=
    { Select.empty .postgres with
      columns := ["id"]
      sources := [.table ⟨.path ⟨["t:?"], nofun, quotedPart_ne⟩, none, nofun⟩]
      filter := .leaf "\"a--b\"" .eq (.value (.param "n"))
      binds := [("n", .float ⟨0⟩)] }
  { Select.empty .postgres with
    sources := [.subquery inner (some "it's:x")]
    filter := .leaf "x" .eq (.value (.scalar (.text "\\'?:n -- /*")))
    having := .leaf "z" .notEq (.value (.param "n"))
    binds := [("n", .float ⟨0x8000000000000000⟩)] }

theorem escaped_quotedSelect : quotedSelect.Escaped := by
  simp only [quotedSelect, Select.Escaped, Select.empty, Source.AllEscaped, Source.Escaped,
    Join.AllEscaped, Condition.empty, Condition.AllEscaped, Condition.Escaped, Operand.Escaped]
  decide +kernel

theorem bind_render_quotedSelect :
    let sql := "SELECT * FROM (SELECT \"id\" FROM \"t:?\" WHERE \"a--b\" = :n) AS \"it's:x\" " ++
      "WHERE \"x\" = '\\''?:n -- /*' HAVING \"z\" != :n"
    quotedSelect.Escaped ∧ quotedSelect.render = .ok sql ∧
      ∃ text values, quotedSelect.params.bind .postgres sql = .ok (text, values) ∧
        sql.toList = quotedSelect.template.text ∧
        text.toList = quotedSelect.template.numbered .postgres 1 ∧
        List.Forall₂ quotedSelect.bindings.Sends values quotedSelect.template.slots := by
  intro sql
  have rendered : quotedSelect.render = .ok sql := by decide +kernel
  exact ⟨escaped_quotedSelect, rendered, Select.bind_render escaped_quotedSelect rendered⟩

end SqlClient
