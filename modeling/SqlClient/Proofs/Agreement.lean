import Mathlib.Data.List.Pairwise
import SqlClient.Proofs.Binding
import SqlClient.Statement.Basic

/-!
# Agreement of bindings

Merging keeps the first binding of each name and refuses a name whose bindings differ. Whatever the
nesting of a statement, this is the same as going through all its bindings in one list: the merge
succeeds exactly when bindings of one name agree, and then it gives the first binding of each name.
-/

namespace SqlClient

theorem Binary64.agrees_symm {left right : Binary64} (agreed : left.agrees right = true) :
    right.agrees left = true := by
  rw [Binary64.agrees_iff] at agreed ⊢
  obtain ⟨number, number', zeros | rfl⟩ := agreed
  · exact ⟨number', number, Or.inl zeros.symm⟩
  · exact ⟨number', number, Or.inr rfl⟩

theorem Scalar.agrees_symm {left right : Scalar} (agreed : left.agrees right = true) :
    right.agrees left = true := by
  rcases Scalar.agrees_cases agreed with ⟨first, second, rfl, rfl, same⟩ | rfl
  · exact Binary64.agrees_symm same
  · exact agreed

namespace Binds

/-! ## First bindings -/

/-- Bindings that agree if they are of one name. -/
def Compatible (first second : String × Scalar) : Prop :=
  first.1 = second.1 → first.2.agrees second.2 = true

/-- Every two bindings of one name agree. -/
def Agree (binds : Binds) : Prop :=
  binds.Pairwise Compatible

instance (first second : String × Scalar) : Decidable (Compatible first second) :=
  inferInstanceAs (Decidable (_ → _))

instance (binds : Binds) : Decidable binds.Agree :=
  inferInstanceAs (Decidable (List.Pairwise _ _))

/-- The first binding of each name. -/
def firsts : Binds → Binds
  | [] => []
  | entry :: rest => entry :: (firsts rest).filter fun other => other.1 ≠ entry.1

/-- The first binding of each name that is not bound before. -/
def fresh (start binds : Binds) : Binds :=
  (firsts binds).filter fun entry => entry.1 ∉ start.map Prod.fst

theorem Compatible.symm {first second : String × Scalar} (compatible : Compatible first second) :
    Compatible second first :=
  fun same => Scalar.agrees_symm (compatible same.symm)

theorem Agree.sublist {binds some : Binds} (agree : binds.Agree) (part : some.Sublist binds) :
    some.Agree :=
  List.Pairwise.sublist part agree

theorem agree_append_comm {left right : Binds} : Agree (left ++ right) ↔ Agree (right ++ left) :=
  List.pairwise_append_comm Compatible.symm

theorem firsts_sublist (binds : Binds) : (firsts binds).Sublist binds := by
  induction binds with
  | nil => exact .slnil
  | cons entry rest induction =>
      exact (List.filter_sublist.trans induction).cons_cons entry

theorem mem_names_firsts {binds : Binds} {name : String} :
    name ∈ (firsts binds).map Prod.fst ↔ name ∈ binds.map Prod.fst := by
  induction binds with
  | nil => rfl
  | cons entry rest induction =>
      by_cases same : name = entry.1
      · simp [firsts, same]
      · have kept : name ∈ ((firsts rest).filter fun other => other.1 ≠ entry.1).map Prod.fst ↔
            name ∈ (firsts rest).map Prod.fst := by
          simp only [List.mem_map, List.mem_filter, decide_eq_true_eq]
          constructor
          · rintro ⟨other, ⟨member, -⟩, named⟩
            exact ⟨other, member, named⟩
          · rintro ⟨other, member, rfl⟩
            exact ⟨other, ⟨member, same⟩, rfl⟩
        simp only [firsts, List.map_cons, List.mem_cons, kept, induction]

theorem nodup_firsts (binds : Binds) : ((firsts binds).map Prod.fst).Nodup := by
  induction binds with
  | nil => exact .nil
  | cons entry rest induction =>
      rw [firsts, List.map_cons, List.nodup_cons]
      refine ⟨?_, (List.filter_sublist.map Prod.fst).nodup induction⟩
      simp [List.mem_map, List.mem_filter]

theorem firsts_of_nodup {binds : Binds} (distinct : (binds.map Prod.fst).Nodup) :
    firsts binds = binds := by
  induction binds with
  | nil => rfl
  | cons entry rest induction =>
      rw [List.map_cons, List.nodup_cons] at distinct
      rw [firsts, induction distinct.2, List.filter_eq_self.2]
      intro other member
      simp only [decide_eq_true_eq]
      rintro same
      exact distinct.1 (List.mem_map.2 ⟨other, member, same⟩)

theorem firsts_firsts (binds : Binds) : firsts (firsts binds) = firsts binds :=
  firsts_of_nodup (nodup_firsts binds)

/-- The first bindings of two lists are those of the left one and the names that it lacks. -/
theorem firsts_append (left right : Binds) :
    firsts (left ++ right) = firsts left ++ fresh left right := by
  induction left with
  | nil => simp [firsts, fresh]
  | cons entry rest induction =>
      rw [List.cons_append, firsts, induction, firsts, List.filter_append, fresh,
        List.filter_filter, fresh, List.cons_append]
      congr 2
      apply List.filter_congr
      intro other _
      rw [Bool.eq_iff_iff]
      simp [not_or]

theorem fresh_nil (start : Binds) : fresh start [] = [] := rfl

@[simp] theorem nil_fresh (binds : Binds) : fresh [] binds = firsts binds := by
  simp [fresh]

theorem fresh_single (start : Binds) (name : String) (value : Scalar) :
    fresh start [(name, value)] =
      if name ∈ start.map Prod.fst then [] else [(name, value)] := by
  by_cases bound : name ∈ start.map Prod.fst <;> simp [fresh, firsts, bound]

/-- Only the names bound before count, not their values. -/
theorem fresh_congr {start other : Binds}
    (same : ∀ name, name ∈ start.map Prod.fst ↔ name ∈ other.map Prod.fst) (binds : Binds) :
    fresh start binds = fresh other binds := by
  simp only [fresh, same]

theorem fresh_fresh (start binds : Binds) :
    fresh start (fresh start binds) = fresh start binds := by
  have distinct : ((fresh start binds).map Prod.fst).Nodup :=
    (List.filter_sublist.map Prod.fst).nodup (nodup_firsts binds)
  rw [fresh, firsts_of_nodup distinct, fresh, List.filter_filter]
  simp

/-- What is fresh in two lists is fresh in the left one, or after it in the right one. -/
theorem fresh_append (start left right : Binds) :
    fresh start (left ++ right) =
      fresh start left ++ fresh (start ++ fresh start left) right := by
  rw [fresh, firsts_append, List.filter_append]
  congr 1
  rw [fresh, fresh, List.filter_filter]
  apply List.filter_congr
  intro entry _
  have names : entry.1 ∈ (fresh start left).map Prod.fst ↔
      entry.1 ∉ start.map Prod.fst ∧ entry.1 ∈ left.map Prod.fst := by
    have present : entry.1 ∈ (firsts left).map Prod.fst ↔ entry.1 ∈ left.map Prod.fst :=
      mem_names_firsts
    rw [← present]
    simp only [fresh, List.mem_map, List.mem_filter, decide_eq_true_eq]
    constructor
    · rintro ⟨other, ⟨member, absent⟩, same⟩
      exact ⟨same ▸ absent, other, member, same⟩
    · rintro ⟨absent, other, member, same⟩
      exact ⟨other, ⟨member, same ▸ absent⟩, same⟩
  simp only [List.map_append, List.mem_append, names]
  by_cases before : entry.1 ∈ start.map Prod.fst <;> simp [before]

/-! ## Agreement of first bindings -/

theorem agree_of_nodup {binds : Binds} (distinct : (binds.map Prod.fst).Nodup) : binds.Agree := by
  rw [List.nodup_iff_pairwise_ne, List.pairwise_map] at distinct
  exact distinct.imp fun different same => absurd same different

/-- Where bindings agree, the first one of a name stands for all of them. -/
theorem Agree.first_of_mem {binds : Binds} (agree : binds.Agree) {entry : String × Scalar}
    (member : entry ∈ binds) :
    ∃ first ∈ firsts binds, first.1 = entry.1 ∧ first.2.StandsFor entry.2 := by
  induction binds with
  | nil => simp at member
  | cons head rest induction =>
      obtain ⟨ahead, agree⟩ := List.pairwise_cons.1 agree
      by_cases same : head.1 = entry.1
      · refine ⟨head, List.mem_cons_self, same, ?_⟩
        rcases List.mem_cons.1 member with rfl | later
        · exact Or.inl rfl
        · exact Or.inr (ahead entry later same)
      · have later : entry ∈ rest :=
          (List.mem_cons.1 member).resolve_left fun here => same (congrArg Prod.fst here.symm)
        obtain ⟨first, found, named, stands⟩ := induction agree later
        refine ⟨first, List.mem_cons_of_mem _ ?_, named, stands⟩
        simpa [List.mem_filter, found, named] using Ne.symm same

/-- Bindings that agree may be replaced by the first ones. -/
theorem Agree.firsts_append_iff {left : Binds} (agree : left.Agree) (right : Binds) :
    Agree (firsts left ++ right) ↔ Agree (left ++ right) := by
  constructor
  · intro first
    obtain ⟨-, others, across⟩ := List.pairwise_append.1 first
    refine List.pairwise_append.2 ⟨agree, others, ?_⟩
    intro entry member other inRight same
    obtain ⟨first, found, named, stands⟩ := agree.first_of_mem member
    have agreed := across first found other inRight (named.trans same)
    rcases stands with equal | agreed'
    · rwa [← equal]
    · exact Scalar.agrees_trans (Scalar.agrees_symm agreed') agreed
  · intro all
    exact all.sublist ((firsts_sublist left).append_right right)

/-- A binding agrees with every other one of its name. -/
theorem Agree.others {binds : Binds} (agree : binds.Agree) {entry : String × Scalar}
    (member : entry ∈ binds) :
    ∃ before after, binds = before ++ entry :: after ∧
      ∀ other ∈ before ++ after, other.1 = entry.1 → entry.2.agrees other.2 = true := by
  obtain ⟨before, after, rfl⟩ := List.append_of_mem member
  obtain ⟨-, later, across⟩ := List.pairwise_append.1 agree
  refine ⟨before, after, rfl, ?_⟩
  intro other elsewhere same
  rcases List.mem_append.1 elsewhere with earlier | behind
  · exact (across other earlier entry List.mem_cons_self).symm same.symm
  · exact (List.pairwise_cons.1 later).1 other behind same.symm

/-! ## Merges -/

/-- What comes of merging bindings into others: all of them agree and the fresh ones are added, or
a name is refused. -/
structure Joins (start binds : Binds) (result : Except InvalidInput Binds) : Prop where
  agreed : Agree (firsts start ++ binds) → result = .ok (start ++ fresh start binds)
  refused : ¬Agree (firsts start ++ binds) →
    ∃ name, result = .error (.conflictingParameter name)

theorem joins_nothing (start : Binds) : Joins start [] (.ok start) := by
  refine ⟨fun _ => by simp [fresh_nil], fun conflict => ?_⟩
  rw [List.append_nil] at conflict
  exact absurd (agree_of_nodup (nodup_firsts start)) conflict

/-- Two merges in turn. -/
theorem Joins.bind {start left right : Binds} {result : Except InvalidInput Binds}
    {next : Binds → Except InvalidInput Binds} (first : Joins start left result)
    (second : ∀ middle, Joins middle right (next middle)) :
    Joins start (left ++ right) (result >>= next) := by
  by_cases inside : Agree (firsts start ++ left)
  · have added := first.agreed inside
    have names : fresh (firsts start) left = fresh start left :=
      fresh_congr (fun _ => mem_names_firsts) left
    -- After the first merge the bindings in force are the first ones of all so far.
    have middle : firsts (start ++ fresh start left) = firsts (firsts start ++ left) := by
      rw [firsts_append, fresh_fresh, firsts_append, firsts_firsts, names]
    have later := second (start ++ fresh start left)
    have same : Agree (firsts (start ++ fresh start left) ++ right) ↔
        Agree (firsts start ++ (left ++ right)) := by
      rw [middle, inside.firsts_append_iff, List.append_assoc]
    rw [added]
    constructor
    · intro all
      rw [fresh_append, ← List.append_assoc]
      exact later.agreed (same.2 all)
    · intro conflict
      exact later.refused (mt same.1 conflict)
  · obtain ⟨name, refused⟩ := first.refused inside
    rw [refused]
    refine ⟨fun all => absurd (all.sublist ?_) inside, fun _ => ⟨name, rfl⟩⟩
    rw [← List.append_assoc]
    exact List.sublist_append_left _ _

theorem find?_eq_some_iff_mem_firsts {binds : Binds} {name : String} {value : Scalar} :
    binds.find? name = some value ↔ (name, value) ∈ firsts binds := by
  induction binds with
  | nil => simp [find?, firsts]
  | cons entry rest induction =>
      obtain ⟨head, held⟩ := entry
      by_cases same : head = name
      · subst same
        simp [find?, firsts, eq_comm]
      · simp [find?, firsts, same, induction, Ne.symm same]

/-- A single binding is merged. -/
theorem joins_single (start : Binds) (entry : String × Scalar) :
    Joins start [entry] (start.merge [entry]) := by
  obtain ⟨name, value⟩ := entry
  have agree_iff : Agree (firsts start ++ [(name, value)]) ↔
      ∀ held, start.find? name = some held → held.agrees value = true := by
    simp only [find?_eq_some_iff_mem_firsts, Agree, List.pairwise_append, List.pairwise_singleton,
      true_and, List.mem_singleton, forall_eq, Compatible, Prod.forall]
    constructor
    · rintro ⟨-, across⟩ held found
      exact across name held found rfl
    · intro across
      refine ⟨agree_of_nodup (nodup_firsts start), ?_⟩
      rintro name held found rfl
      exact across held found
  rw [merge]
  cases found : start.find? name with
  | none =>
      have absent : name ∉ start.map Prod.fst := not_mem_of_find? found
      have added : fresh start [(name, value)] = [(name, value)] := by
        rw [fresh_single, if_neg absent]
      refine ⟨fun _ => by rw [added]; rfl, fun conflict => absurd ?_ conflict⟩
      rw [agree_iff, found]
      simp
  | some held =>
      have bound : name ∈ start.map Prod.fst := List.mem_map_of_mem (mem_of_find? found)
      have nothing : fresh start [(name, value)] = [] := by
        rw [fresh_single, if_pos bound]
      rw [found] at agree_iff
      by_cases agreed : held.agrees value = true
      · refine ⟨fun _ => by simp [agreed, merge, nothing], fun conflict => absurd ?_ conflict⟩
        rw [agree_iff]
        rintro _ ⟨⟩
        exact agreed
      · exact ⟨fun all => absurd (agree_iff.1 all held rfl) agreed,
          fun _ => ⟨name, by simp [agreed]⟩⟩

theorem merge_cons (start : Binds) (entry : String × Scalar) (rest : Binds) :
    start.merge (entry :: rest) = start.merge [entry] >>= fun middle => middle.merge rest := by
  obtain ⟨name, value⟩ := entry
  rw [merge, merge]
  cases start.find? name with
  | none => rfl
  | some held => by_cases agreed : held.agrees value = true <;> simp [agreed, merge] <;> rfl

theorem joins_merge (start binds : Binds) : Joins start binds (start.merge binds) := by
  induction binds generalizing start with
  | nil =>
      rw [merge]
      exact joins_nothing start
  | cons entry rest induction =>
      rw [merge_cons]
      exact (joins_single start entry).bind induction

/-- Bindings gathered into a list of their own, and then merged into others. -/
theorem Joins.into {own inner : Binds} {gathered : Except InvalidInput Binds}
    (inside : Joins own inner gathered) (start : Binds) :
    Joins start (own ++ inner) (gathered >>= start.merge) := by
  by_cases agreed : Agree (firsts own ++ inner)
  · have merged := joins_merge start (own ++ fresh own inner)
    have firsts_eq : firsts (own ++ fresh own inner) = firsts (own ++ inner) := by
      rw [firsts_append, fresh_fresh, firsts_append]
    have fresh_eq : fresh start (own ++ fresh own inner) = fresh start (own ++ inner) := by
      rw [fresh, firsts_eq, fresh]
    have part : (own ++ fresh own inner).Sublist (own ++ inner) :=
      (List.filter_sublist.trans (firsts_sublist inner)).append_left own
    -- The list gathered holds the first bindings, which stand for all of them.
    have same : Agree (firsts start ++ (own ++ fresh own inner)) ↔
        Agree (firsts start ++ (own ++ inner)) := by
      constructor
      · intro some
        have ownAgree : Agree own :=
          some.sublist ((List.sublist_append_left _ _).trans (List.sublist_append_right _ _))
        have whole : Agree (own ++ inner) := (ownAgree.firsts_append_iff inner).1 agreed
        rw [agree_append_comm, ← whole.firsts_append_iff, ← firsts_eq, agree_append_comm]
        exact some.sublist ((firsts_sublist _).append_left _)
      · intro all
        exact all.sublist (part.append_left _)
    rw [inside.agreed agreed]
    constructor
    · intro all
      rw [← fresh_eq]
      exact merged.agreed (same.2 all)
    · intro conflict
      exact merged.refused (mt same.1 conflict)
  · obtain ⟨name, refused⟩ := inside.refused agreed
    rw [refused]
    refine ⟨fun all => absurd (all.sublist ?_) agreed, fun _ => ⟨name, rfl⟩⟩
    exact ((firsts_sublist own).append_right inner).trans (List.sublist_append_right _ _)

end Binds

/-! ## Trees -/

open Binds

mutual

theorem Condition.joins_mergeBinds : (condition : Condition) → (start : Binds) →
    Joins start condition.bindings (condition.mergeBinds start)
  | .raw _, start => by
      rw [Condition.mergeBinds]
      exact joins_nothing start
  | .group _ members, start => by
      rw [Condition.mergeBinds]
      exact Condition.joins_mergeAll members start
  | .leaf _ _ operand, start => by
      rw [Condition.mergeBinds]
      exact Operand.joins_mergeBinds operand start

theorem Condition.joins_mergeAll : (members : List Condition) → (start : Binds) →
    Joins start (Condition.allBindings members) (Condition.mergeAll members start)
  | [], start => by
      rw [Condition.mergeAll]
      exact joins_nothing start
  | member :: rest, start => by
      rw [Condition.mergeAll]
      exact (Condition.joins_mergeBinds member start).bind (Condition.joins_mergeAll rest)

theorem Operand.joins_mergeBinds : (operand : Operand) → (start : Binds) →
    Joins start operand.bindings (operand.mergeBinds start)
  | .subquery select, start => by
      rw [Operand.mergeBinds]
      exact Select.joins_mergeBinds select start
  | .nested condition, start => by
      rw [Operand.mergeBinds]
      exact Condition.joins_mergeBinds condition start
  | .none, start | .value _, start | .list _, start | .column _, start => by
      rw [Operand.mergeBinds]
      exact joins_nothing start

theorem Join.joins_mergeBinds : (join : Join) → (start : Binds) →
    Joins start join.bindings (join.mergeBinds start)
  | ⟨_, _, condition⟩, start => by
      rw [Join.mergeBinds]
      exact Condition.joins_mergeBinds condition start

theorem Join.joins_mergeAll : (joins : List Join) → (start : Binds) →
    Joins start (Join.allBindings joins) (Join.mergeAll joins start)
  | [], start => by
      rw [Join.mergeAll]
      exact joins_nothing start
  | join :: rest, start => by
      rw [Join.mergeAll]
      exact (Join.joins_mergeBinds join start).bind (Join.joins_mergeAll rest)

theorem Source.joins_mergeBinds : (source : Source) → (start : Binds) →
    Joins start source.bindings (source.mergeBinds start)
  | .table _, start => by
      rw [Source.mergeBinds]
      exact joins_nothing start
  | .subquery select _, start => by
      rw [Source.mergeBinds]
      exact Select.joins_mergeBinds select start

theorem Source.joins_mergeAll : (sources : List Source) → (start : Binds) →
    Joins start (Source.allBindings sources) (Source.mergeAll sources start)
  | [], start => by
      rw [Source.mergeAll]
      exact joins_nothing start
  | source :: rest, start => by
      rw [Source.mergeAll]
      exact (Source.joins_mergeBinds source start).bind (Source.joins_mergeAll rest)

/-- Merging the bindings of a selection, whatever is nested in it, comes to merging all of them in
one list. -/
theorem Select.joins_mergeBinds : (select : Select) → (start : Binds) →
    Joins start select.bindings (select.mergeBinds start)
  | ⟨dialect, distinct, opening?, columns, sources, joins, filter, groupBy, having, orderBy,
      limit?, offset?, lock?, binds⟩, start => by
      have parts := (Join.joins_mergeAll joins binds).bind fun middle =>
        (Condition.joins_mergeBinds filter middle).bind fun middle =>
          (Condition.joins_mergeBinds having middle).bind (Source.joins_mergeAll sources)
      have whole := parts.into start
      simp only [Select.mergeBinds, Select.bindings, bind_assoc, List.append_assoc] at whole ⊢
      exact whole

end

/-- Merging the bindings of joins and conditions into the own ones of a statement. -/
theorem joins_statementBinds (own : Binds) (joins : List Join) (filter : Condition) :
    Joins own (Join.allBindings joins ++ filter.bindings)
      (statementBinds own joins [filter]) := by
  have parts := (Join.joins_mergeAll joins own).bind
    fun middle => Condition.joins_mergeAll [filter] middle
  simpa [statementBinds, Condition.allBindings] using parts

/-! ## Bind calls -/

namespace Binds

/-- The bindings after values are bound in order, if none of the names is refused. -/
def bindAll : List (String × Scalar) → Binds → Except InvalidInput Binds
  | [], binds => .ok binds
  | (written, value) :: rest, binds => do bindAll rest (← binds.bind written value)

/-- Bound values under their names without leading colons. -/
def stripped (given : List (String × Scalar)) : Binds :=
  given.map fun pair => (Text.dropLeading ':' pair.1, pair.2)

/-- One entry for each name that was bound, in the place of the first value and with the last. -/
structure HoldsLast (given own : Binds) : Prop where
  names : own.map Prod.fst = (firsts given).map Prod.fst
  last : ∀ name, own.find? name = Params.lastValue? given name

theorem names_assign (binds : Binds) (name : String) (value : Scalar) :
    (binds.assign name value).map Prod.fst =
      binds.map Prod.fst ++ (fresh binds [(name, value)]).map Prod.fst := by
  induction binds with
  | nil => simp [assign, firsts]
  | cons entry rest induction =>
      obtain ⟨head, held⟩ := entry
      rw [assign]
      by_cases same : head = name
      · rw [if_pos same, fresh_single, if_pos (by simp [same])]
        simp
      · have bound : name ∈ head :: rest.map Prod.fst ↔ name ∈ rest.map Prod.fst := by
          simp [Ne.symm same]
        rw [if_neg same, List.map_cons, induction, fresh_single, fresh_single]
        simp only [bound, List.map_cons, List.cons_append]

theorem find?_assign (binds : Binds) (name : String) (value : Scalar) (wanted : String) :
    (binds.assign name value).find? wanted =
      if name = wanted then some value else binds.find? wanted := by
  induction binds with
  | nil => simp [assign, find?]
  | cons entry rest induction =>
      obtain ⟨head, held⟩ := entry
      rw [assign]
      by_cases same : head = name
      · subst same
        by_cases found : head = wanted <;> simp [find?, found]
      · rw [if_neg same, find?, induction, find?]
        by_cases here : head = wanted
        · simp [here, show name ≠ wanted from fun other => same (here.trans other.symm)]
        · simp [here]

theorem lastValue?_append (left right : List (String × Scalar)) (name : String) :
    Params.lastValue? (left ++ right) name =
      (Params.lastValue? right name).or (Params.lastValue? left name) := by
  rw [Params.lastValue?, List.reverse_append, List.lookup_append]
  rfl

/-- Values bound in order give their fresh names a place behind the others, and every name its last
value. -/
theorem bindAll_spec {given : List (String × Scalar)} {start own : Binds}
    (bound : bindAll given start = .ok own) :
    own.map Prod.fst = start.map Prod.fst ++ (fresh start (stripped given)).map Prod.fst ∧
      ∀ name, own.find? name =
        (Params.lastValue? (stripped given) name).or (start.find? name) := by
  induction given generalizing start with
  | nil =>
      obtain rfl := Except.ok.inj bound
      simp [stripped, fresh_nil, Params.lastValue?]
  | cons pair rest induction =>
      obtain ⟨written, value⟩ := pair
      simp only [bindAll, bind_eq_ok] at bound
      obtain ⟨middle, first, later⟩ := bound
      have assigned : middle = start.assign (Text.dropLeading ':' written) value := by
        rw [Binds.bind] at first
        split at first
        · contradiction
        · exact (Except.ok.inj first).symm
      obtain ⟨names, values⟩ := induction later
      have head : stripped ((written, value) :: rest) =
          [(Text.dropLeading ':' written, value)] ++ stripped rest := rfl
      generalize Text.dropLeading ':' written = name at assigned head
      subst assigned
      rw [head]
      constructor
      · have same : fresh (start.assign name value) (stripped rest) =
            fresh (start ++ fresh start [(name, value)]) (stripped rest) :=
          fresh_congr (by simp [names_assign]) _
        rw [names, names_assign, fresh_append, List.map_append, List.append_assoc, same]
      · intro wanted
        have single : Params.lastValue? [(name, value)] wanted =
            if name = wanted then some value else none := by
          by_cases same : name = wanted
          · simp [Params.lastValue?, same]
          · simp [Params.lastValue?, List.lookup_cons, same, beq_eq_false_iff_ne.2 (Ne.symm same)]
        rw [values, find?_assign, lastValue?_append, Option.or_assoc, single]
        by_cases same : name = wanted <;> simp [same]

theorem holdsLast_of_bindAll {given : List (String × Scalar)} {own : Binds}
    (bound : bindAll given [] = .ok own) : HoldsLast (stripped given) own := by
  obtain ⟨names, values⟩ := bindAll_spec bound
  refine ⟨by simpa using names, fun name => ?_⟩
  rw [values, find?, Option.or_none]

theorem HoldsLast.nodup {given own : Binds} (holds : HoldsLast given own) :
    (own.map Prod.fst).Nodup := by
  rw [holds.names]
  exact nodup_firsts given

/-- The parameters of a statement: its own bindings come first, every name bound in its tree has
one value, and that is bound somewhere in the tree and agrees with all others of its name. -/
structure Gathers (own bindings params : Binds) : Prop where
  nodup : (params.map Prod.fst).Nodup
  own_prefix : own <+: params
  names : ∀ name, name ∈ params.map Prod.fst ↔ name ∈ bindings.map Prod.fst
  value : ∀ entry ∈ params, ∃ before after, bindings = before ++ entry :: after ∧
    ∀ other ∈ before ++ after, other.1 = entry.1 → entry.2.agrees other.2 = true

/-- The first bindings of all are the parameters of a statement whose bindings agree. -/
theorem gathers_firsts {own inner : Binds} (distinct : (own.map Prod.fst).Nodup)
    (agree : Agree (own ++ inner)) : Gathers own (own ++ inner) (firsts (own ++ inner)) where
  nodup := nodup_firsts _
  own_prefix := by
    rw [firsts_append, firsts_of_nodup distinct]
    exact List.prefix_append own _
  names _ := mem_names_firsts
  value _ member := agree.others ((firsts_sublist _).subset member)

end Binds

/-! ## Statements -/

theorem Identifier.unlabelled_ne : (none : Option String) ≠ some "" := by
  simp

/-- The reference to a table with a name of one letter. -/
def Identifier.ofLetter (letter : Char) : Identifier where
  name := .path ⟨[String.singleton letter], List.cons_ne_nil _ _, by simp⟩
  alias_ne := unlabelled_ne

/-- The own bindings of a selection come before those of the selections inside it. -/
theorem Select.bindings_eq (select : Select) :
    select.bindings = select.binds ++ (Join.allBindings select.joins ++
      (Condition.bindings select.filter ++ (Condition.bindings select.having ++
        Source.allBindings select.sources))) := by
  obtain ⟨dialect, distinct, opening?, columns, sources, joins, filter, groupBy, having, orderBy,
    limit?, offset?, lock?, binds⟩ := select
  simp only [Select.bindings, List.append_assoc]

namespace Statement

/-- The values bound to a statement itself. -/
def own : Statement → Binds
  | .select selection => selection.binds
  | .insert insertion => insertion.binds
  | .update change => change.binds
  | .delete removal => removal.binds

/-- The bindings of the selections inside a statement. -/
def inner : Statement → Binds
  | .select selection =>
      Join.allBindings selection.joins ++ (Condition.bindings selection.filter ++
        (Condition.bindings selection.having ++ Source.allBindings selection.sources))
  | .insert _ => []
  | .update change => Join.allBindings change.joins ++ Condition.bindings change.filter
  | .delete removal => Join.allBindings removal.joins ++ Condition.bindings removal.filter

/-- The bindings of a statement and of every selection inside it. -/
def bindings (statement : Statement) : Binds :=
  statement.own ++ statement.inner

/-- All bindings of the tree, merged. -/
def mergedBinds : Statement → Except InvalidInput Binds
  | .select selection => selection.mergeBinds []
  | .insert insertion => .ok insertion.binds
  | .update change => change.mergedBinds
  | .delete removal => removal.mergedBinds

/-- All bindings of a statement are merged into the first one of each name if they agree, and are
refused otherwise. -/
theorem joins_mergedBinds {statement : Statement}
    (distinct : (statement.own.map Prod.fst).Nodup) :
    Joins [] statement.bindings statement.mergedBinds := by
  -- The own bindings of a write statement are not merged, which makes no difference.
  have begun : ∀ {own inner : Binds} {result}, (own.map Prod.fst).Nodup → Joins own inner result →
      Joins [] (own ++ inner) result := by
    intro own inner result distinct joins
    have same : firsts own = own := firsts_of_nodup distinct
    constructor
    · intro agree
      rw [joins.agreed (by simpa [same, firsts] using agree), nil_fresh, firsts_append, same,
        List.nil_append]
    · intro conflict
      exact joins.refused (by simpa [same, firsts] using conflict)
  cases statement with
  | select selection =>
      rw [bindings, own, inner, ← selection.bindings_eq]
      exact selection.joins_mergeBinds []
  | insert insertion => exact begun distinct (joins_nothing insertion.binds)
  | update change => exact begun distinct (joins_statementBinds _ _ _)
  | delete removal => exact begun distinct (joins_statementBinds _ _ _)

/-- A statement whose bindings are refused is not rendered. -/
theorem render_of_refused {statement : Statement} {refusal : InvalidInput}
    (refused : statement.mergedBinds = .error refusal) :
    ∃ error, statement.render = .error error := by
  cases statement with
  | select selection =>
      obtain ⟨dialect, distinct, opening?, columns, sources, joins, filter, groupBy, having,
        orderBy, limit?, offset?, lock?, binds⟩ := selection
      rw [render, Select.render]
      rw [mergedBinds] at refused
      split
      · exact ⟨_, rfl⟩
      · rw [refused]
        exact ⟨_, rfl⟩
  | insert insertion => simp [mergedBinds] at refused
  | update change =>
      rw [mergedBinds] at refused
      rw [render, Update.render]
      split
      · exact ⟨_, rfl⟩
      · rw [refused]
        exact ⟨_, rfl⟩
  | delete removal =>
      rw [mergedBinds] at refused
      rw [render, Delete.render]
      split
      · exact ⟨_, rfl⟩
      · rw [refused]
        exact ⟨_, rfl⟩

/-- The parameters of a statement whose bindings are merged. -/
theorem params_of_merged {statement : Statement} {merged : Binds}
    (joined : statement.mergedBinds = .ok merged) : statement.params = .ofNamed merged := by
  cases statement with
  | select selection =>
      rw [mergedBinds] at joined
      rw [params, Select.params, joined, paramsOf]
  | insert insertion =>
      obtain rfl := Except.ok.inj joined
      rfl
  | update change =>
      rw [mergedBinds] at joined
      rw [params, Update.params, joined, paramsOf]
  | delete removal =>
      rw [mergedBinds] at joined
      rw [params, Delete.params, joined, paramsOf]

/-- The bindings of a statement are gathered from its whole tree. Its own ones hold the last value
given for each name. Gathering fails, and with it the rendering, exactly if two bindings of one
name anywhere in the tree do not agree; a rendered statement has one parameter for each name. -/
theorem gathers_of_bound {statement : Statement} {given : List (String × Scalar)}
    (bound : bindAll given [] = .ok statement.own) :
    HoldsLast (stripped given) statement.own ∧
      ((∃ refusal, statement.mergedBinds = .error refusal) ↔ ¬statement.bindings.Agree) ∧
      ((∃ refusal, statement.mergedBinds = .error refusal) →
        ∃ error, statement.render = .error error) ∧
      ∀ sql, statement.render = .ok sql → ∃ params, statement.params = .ofNamed params ∧
        Gathers statement.own statement.bindings params := by
  have holds := holdsLast_of_bindAll bound
  have joins := joins_mergedBinds holds.nodup
  have joined (agree : statement.bindings.Agree) :
      statement.mergedBinds = .ok (firsts statement.bindings) := by
    simpa using joins.agreed agree
  have fails : (∃ refusal, statement.mergedBinds = .error refusal) ↔
      ¬statement.bindings.Agree := by
    constructor
    · rintro ⟨refusal, refused⟩ agree
      simp [joined agree] at refused
    · intro conflict
      obtain ⟨name, refused⟩ := joins.refused conflict
      exact ⟨_, refused⟩
  refine ⟨holds, fails, fun ⟨_, refused⟩ => render_of_refused refused, ?_⟩
  intro sql rendered
  have agree : statement.bindings.Agree := by
    by_contra conflict
    obtain ⟨refusal, refused⟩ := fails.2 conflict
    obtain ⟨error, failed⟩ := render_of_refused refused
    simp [rendered] at failed
  exact ⟨_, params_of_merged (joined agree), gathers_firsts holds.nodup agree⟩

/-- An update that binds a zero to a parameter and shares the parameter with a selection inside
it. -/
def sharedUpdate (value : Scalar) : Statement :=
  let inner : Select :=
    { Select.empty .postgres with
      sources := [.table (.ofLetter 'u')]
      filter := .leaf "y" .eq (.value (.param "n"))
      binds := [("n", value), ("k", .null)] }
  .update
    { Update.empty .postgres with
      table? := some (.ofLetter 't')
      assignments := [.param "m"]
      filter := .leaf "x" .isIn (.subquery inner)
      binds := [("n", .float ⟨0⟩), ("m", .int 2)] }

theorem gathers_sharedUpdate :
    let given := [(":n", Scalar.int 1), ("m", .int 2), ("n", .float ⟨0⟩)]
    let agreeing := sharedUpdate (.float ⟨0x8000000000000000⟩)
    let conflicting := sharedUpdate (.int 0)
    bindAll given [] = .ok agreeing.own ∧ HoldsLast (stripped given) agreeing.own ∧
      agreeing.render =
        .ok "UPDATE \"t\" SET \"m\" = :m WHERE \"x\" IN (SELECT * FROM \"u\" WHERE \"y\" = :n)" ∧
      (∃ params, agreeing.params = .ofNamed params ∧
        Gathers agreeing.own agreeing.bindings params) ∧
      ∃ error, conflicting.render = .error error := by
  intro given agreeing conflicting
  have bound : bindAll given [] = .ok agreeing.own := by decide +kernel
  have rendered : agreeing.render =
      .ok "UPDATE \"t\" SET \"m\" = :m WHERE \"x\" IN (SELECT * FROM \"u\" WHERE \"y\" = :n)" := by
    decide +kernel
  obtain ⟨holds, -, -, gathers⟩ := gathers_of_bound bound
  have bound' : bindAll given [] = .ok conflicting.own := by decide +kernel
  have conflict : ¬conflicting.bindings.Agree := by decide +kernel
  obtain ⟨-, fails, unrendered, -⟩ := gathers_of_bound bound'
  exact ⟨bound, holds, rendered, gathers _ rendered, unrendered (fails.2 conflict)⟩

end Statement

end SqlClient
