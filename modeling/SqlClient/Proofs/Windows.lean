import Std.Data.String.ToNat
import SqlClient.Page
import SqlClient.Proofs.Quoting

/-!
# Windows of a result

The clause of a window tells in the text of a selection which rows are asked for. The windows of a
paginator ask for the parts that its pages hold, whether the pages are counted from the front or
from the end, and the parts of all pages make up the result.
-/

namespace SqlClient

variable {α : Type}

/-- The rows that a limit and an offset leave; an offset needs a limit. -/
def slice (limit? offset? : Option Nat) (rows : List α) : List α :=
  match limit? with
  | none => rows
  | some limit => (rows.drop (offset?.getD 0)).take limit

theorem slice_map {β : Type} (limit? offset? : Option Nat) (form : α → β) (rows : List α) :
    slice limit? offset? (rows.map form) = (slice limit? offset? rows).map form := by
  cases limit? <;> simp [slice]

/-! ## The clause in the text -/

theorem ne_blank_of_mem_nat {number : Nat} {char : Char}
    (member : char ∈ (toString number).toList) : char ≠ ' ' := by
  rintro rfl
  exact absurd (List.all_eq_true.1 (numeric_nat number) ' ' member) (by decide)

/-- A number is told from the text behind it if that begins with a blank. -/
theorem nat_append_inj {left right : Nat} {leftRest rightRest : List Char}
    (leftBlank : ∀ char ∈ leftRest.head?, char = ' ')
    (rightBlank : ∀ char ∈ rightRest.head?, char = ' ')
    (same : (toString left).toList ++ leftRest = (toString right).toList ++ rightRest) :
    left = right ∧ leftRest = rightRest := by
  have cut : ∀ (number : Nat) (rest : List Char), (∀ char ∈ rest.head?, char = ' ') →
      ((toString number).toList ++ rest).takeWhile (· ≠ ' ') = (toString number).toList := by
    intro number rest blank
    rw [List.takeWhile_append_of_pos fun char member => by simpa using ne_blank_of_mem_nat member]
    cases rest with
    | nil => simp
    | cons char rest => simp [blank char rfl]
  have digits : (toString left).toList = (toString right).toList := by
    rw [← cut left leftRest leftBlank, same, cut right rightRest rightBlank]
  refine ⟨Nat.repr_injective (String.toList_injective digits), ?_⟩
  rw [digits] at same
  exact List.append_cancel_left same

/-- The characters behind the limit of a window. -/
def offsetChars : Option Nat → List Char
  | none => []
  | some offset => ' ' :: ("OFFSET ".toList ++ (toString offset).toList)

theorem offsetChars_blank (offset? : Option Nat) :
    ∀ char ∈ (offsetChars offset?).head?, char = ' ' := by
  cases offset? with
  | none => nofun
  | some offset =>
      rintro char member
      exact (Option.some.inj member).symm

theorem offsetChars_injective {left right : Option Nat}
    (same : offsetChars left = offsetChars right) : left = right := by
  cases left with
  | none =>
      cases right with
      | none => rfl
      | some offset => cases same
  | some offset =>
      cases right with
      | none => cases same
      | some offset' =>
          have digits := List.append_cancel_left (List.tail_eq_of_cons_eq same)
          exact congrArg some (Nat.repr_injective (String.toList_injective digits))

theorem toList_windowClause_some (limit : Nat) (offset? : Option Nat) :
    (windowClause (some limit) offset?).toList =
      " LIMIT ".toList ++ ((toString limit).toList ++ offsetChars offset?) := by
  cases offset? with
  | none =>
    rw [windowClause, limitClause, String.toList_append, offsetChars, List.append_nil]
    intros
    contradiction
  | some offset =>
    rw [windowClause, limitClause, String.toList_append, String.toList_append,
      String.toList_append, List.append_assoc, List.append_assoc]
    rfl

/-- The clause of a window tells the rows it leaves. -/
theorem slice_of_windowClause {limit? limit'? offset? offset'? : Option Nat}
    (same : windowClause limit? offset? = windowClause limit'? offset'?) (rows : List α) :
    slice limit? offset? rows = slice limit'? offset'? rows := by
  have none_ne (limit : Nat) (offset? offset'? : Option Nat) :
      windowClause none offset? ≠ windowClause (some limit) offset'? := by
    intro equal
    have chars := congrArg String.toList equal
    rw [toList_windowClause_some] at chars
    simp [windowClause, limitClause] at chars
  cases limit? with
  | none =>
      cases limit'? with
      | none => rfl
      | some limit' => exact absurd same (none_ne limit' _ _)
  | some limit =>
      cases limit'? with
      | none => exact absurd same.symm (none_ne limit _ _)
      | some limit' =>
          have chars := congrArg String.toList same
          rw [toList_windowClause_some, toList_windowClause_some] at chars
          obtain ⟨rfl, rest⟩ := nat_append_inj (offsetChars_blank offset?)
            (offsetChars_blank offset'?) (List.append_cancel_left chars)
          rw [offsetChars_injective rest]

namespace Select

/-- The selection with neither a window nor a lock, which are the end of its text. -/
def unwindowed (select : Select) : Select :=
  { select.clearLimit with lock? := none }

/-- A text asks for a window of the rows of a selection. -/
def AsksFor (select : Select) (limit? offset? : Option Nat) (sql : String) : Prop :=
  ∃ head lock, select.unwindowed.render = .ok head ∧
    lockClause select.dialect select.lock? = .ok lock ∧
    sql = head ++ windowClause limit? offset? ++ lock

/-- The text of a selection asks for the window that the selection has. -/
theorem asksFor_of_render {select : Select} {sql : String} (rendered : select.render = .ok sql) :
    select.AsksFor select.limit? select.offset? sql := by
  obtain ⟨dialect, distinct, opening?, columns, sources, joins, filter, groupBy, having, orderBy,
    limit?, offset?, lock?, binds⟩ := select
  simp only [AsksFor, unwindowed, clearLimit]
  rw [Select.render] at rendered ⊢
  split at rendered
  · simp at rendered
  · next filled =>
    simp only [bind_eq_ok, Except.ok.injEq] at rendered
    obtain ⟨merged, merges, columnTexts, written, sourceTexts, read, joinText, joined, filterText,
      filtered, groupText, grouped, havingText, had, orderText, ordered, lock, locked, rfl⟩ :=
      rendered
    rw [Select.mergeBinds] at merges
    refine ⟨_, lock, ?_, locked, rfl⟩
    rw [if_neg filled, Select.mergeBinds]
    simp only [bind_eq_ok, Except.ok.injEq]
    exact ⟨merged, merges, columnTexts, written, sourceTexts, read, joinText, joined, filterText,
      filtered, groupText, grouped, havingText, had, orderText, ordered, "", rfl,
      by simp [windowClause, limitClause]⟩

theorem asksFor_setLimit {select : Select} {limit offset : Nat} {sql : String}
    (rendered : (select.setLimit limit offset).render = .ok sql) :
    select.AsksFor (select.setLimit limit offset).limit? (select.setLimit limit offset).offset?
      sql :=
  asksFor_of_render rendered

/-- A text of a selection asks for one window only. -/
theorem slice_of_asksFor {select : Select} {limit? limit'? offset? offset'? : Option Nat}
    {sql : String} (asks : select.AsksFor limit? offset? sql)
    (asks' : select.AsksFor limit'? offset'? sql) (rows : List α) :
    slice limit? offset? rows = slice limit'? offset'? rows := by
  obtain ⟨head, lock, written, locked, rfl⟩ := asks
  obtain ⟨head', lock', written', locked', same⟩ := asks'
  cases written.symm.trans written'
  cases locked.symm.trans locked'
  have clauses := (String.append_right_inj head).1 ((String.append_left_inj lock).1 same)
  exact slice_of_windowClause clauses rows

/-- The rows of the window of a selection, where zero stands for no limit and for no offset. -/
theorem slice_setLimit (select : Select) (limit offset : Nat) (rows : List α) :
    slice (select.setLimit limit offset).limit? (select.setLimit limit offset).offset? rows =
      if limit = 0 then rows else (rows.drop offset).take limit := by
  by_cases unlimited : limit = 0
  · simp [setLimit, slice, unlimited]
  · by_cases start : offset = 0 <;> simp [setLimit, slice, unlimited, start]

end Select

/-! ## The parts of the pages -/

namespace Paginator

/-- The paginator at another page. -/
def onPage (paginator : Paginator) (page : Nat) : Paginator :=
  { paginator with page }

/-- All rows in the order of the pages. -/
def ordered (paginator : Paginator) (rows : List α) : List α :=
  if paginator.reverse then rows.reverse else rows

/-- The part of the page of rows in the order of the pages. -/
def part (paginator : Paginator) (rows : List α) : List α :=
  if paginator.limit = 0 then rows else (rows.drop paginator.offset).take paginator.limit

theorem window?_eq_some {paginator : Paginator} {total : Nat} {window : Window} :
    paginator.window? total = some window ↔
      paginator.page ≤ paginator.lastPage total ∧ paginator.window total = window := by
  simp [window?]

/-- All pages begin within the rows. -/
theorem offset_lt {paginator : Paginator} {total : Nat} (limited : 0 < paginator.limit)
    (numbered : 1 ≤ paginator.page) (within : paginator.page ≤ paginator.lastPage total) :
    paginator.offset < total := by
  rw [lastPage, if_neg (by omega), Nat.le_div_iff_mul_le limited] at within
  have split : paginator.page * paginator.limit = paginator.offset + paginator.limit := by
    rw [offset, Nat.sub_mul, Nat.one_mul]
    have := Nat.mul_le_mul_right paginator.limit numbered
    omega
  omega

/-- The last page ends where the rows end. -/
theorem total_le (paginator : Paginator) {total : Nat} (limited : 0 < paginator.limit) :
    total ≤ paginator.lastPage total * paginator.limit := by
  rw [lastPage, if_neg (by omega), Nat.mul_comm]
  have above := Nat.lt_mul_div_succ (total + paginator.limit - 1) limited
  rw [Nat.mul_succ] at above
  omega

/-- A window counted from the end of rows is a window of the rows in reverse order. -/
theorem reverse_window (rows : List α) {limit offset : Nat}
    (inside : offset + limit ≤ rows.length) :
    ((rows.drop (rows.length - (offset + limit))).take limit).reverse =
      (rows.reverse.drop offset).take limit := by
  have kept : rows.length - offset - (rows.length - (offset + limit)) = limit := by omega
  have start : rows.length - offset - limit = rows.length - (offset + limit) := by omega
  rw [List.drop_reverse, List.take_reverse, List.length_take, Nat.min_eq_left (Nat.sub_le _ _),
    List.drop_take, start, kept]

/-- The rows of the window of a page are the part of the page. -/
theorem ordered_slice_window {paginator : Paginator} {rows : List α} {window : Window}
    (numbered : 1 ≤ paginator.page) (found : paginator.window? rows.length = some window) :
    paginator.ordered (slice (paginator.select.setLimit window.limit window.offset).limit?
      (paginator.select.setLimit window.limit window.offset).offset? rows) =
        paginator.part (paginator.ordered rows) := by
  obtain ⟨within, rfl⟩ := window?_eq_some.1 found
  rw [Select.slice_setLimit]
  by_cases unlimited : paginator.limit = 0
  · simp [window, part, unlimited]
  have limited : 0 < paginator.limit := Nat.pos_of_ne_zero unlimited
  cases backwards : paginator.reverse with
  | false => simp [window, part, ordered, unlimited, backwards]
  | true =>
    by_cases inside : paginator.offset + paginator.limit ≤ rows.length
    · simpa [window, part, ordered, unlimited, limited, backwards, inside] using
        reverse_window rows inside
    · -- The last page is short: its window begins where the rows begin.
      have begun := offset_lt limited numbered within
      have short : rows.length - paginator.offset ≤ paginator.limit := by omega
      have filled : ¬rows.length - paginator.offset = 0 := by omega
      simp [window, part, ordered, unlimited, limited, backwards, inside, filled,
        List.drop_reverse, List.take_of_length_le, short]

/-- The parts of the first pages are as many rows as there are places on them. -/
theorem flatMap_part_range (paginator : Paginator) (limited : 0 < paginator.limit)
    (rows : List α) (count : Nat) :
    (List.range' 1 count).flatMap (fun page => (paginator.onPage page).part rows) =
      rows.take (count * paginator.limit) := by
  induction count with
  | zero => simp
  | succ count induction =>
      have last : (paginator.onPage (1 + count)).part rows =
          (rows.drop (count * paginator.limit)).take paginator.limit := by
        simp [part, onPage, offset, Nat.ne_of_gt limited]
      rw [List.range'_1_concat, List.flatMap_append, induction, List.flatMap_singleton, last,
        ← List.take_add, Nat.succ_mul]

/-- The parts of all pages in order are the rows. -/
theorem flatMap_part (paginator : Paginator) (rows : List α) :
    (List.range' 1 (paginator.lastPage rows.length)).flatMap
      (fun page => (paginator.onPage page).part rows) = rows := by
  by_cases unlimited : paginator.limit = 0
  · simp [lastPage, part, onPage, unlimited]
  · have limited := Nat.pos_of_ne_zero unlimited
    rw [flatMap_part_range paginator limited, List.take_of_length_le (paginator.total_le limited)]

theorem length_part {paginator : Paginator} (limited : 0 < paginator.limit) (rows : List α) :
    (paginator.part rows).length = min paginator.limit (rows.length - paginator.offset) := by
  rw [part, if_neg (Nat.ne_of_gt limited), List.length_take, List.length_drop]

/-- Every page but the last is full. -/
theorem length_part_of_lt {paginator : Paginator} {rows : List α} (limited : 0 < paginator.limit)
    (numbered : 1 ≤ paginator.page) (before : paginator.page < paginator.lastPage rows.length) :
    (paginator.part rows).length = paginator.limit := by
  have next : (paginator.onPage (paginator.page + 1)).offset < rows.length :=
    offset_lt limited (Nat.le_add_left 1 paginator.page) before
  have split : paginator.page * paginator.limit = paginator.offset + paginator.limit := by
    rw [offset, ← Nat.succ_mul, Nat.succ_eq_add_one, Nat.sub_add_cancel numbered]
  rw [offset, onPage, Nat.add_sub_cancel, split] at next
  rw [length_part limited]
  omega

/-- No page is empty or holds more rows than there are places. -/
theorem length_part_bounds {paginator : Paginator} {rows : List α} (limited : 0 < paginator.limit)
    (numbered : 1 ≤ paginator.page) (within : paginator.page ≤ paginator.lastPage rows.length) :
    1 ≤ (paginator.part rows).length ∧ (paginator.part rows).length ≤ paginator.limit := by
  have begun := offset_lt limited numbered within
  rw [length_part limited]
  omega

/-- The numbers of the rows of a page are the part of the page of all numbers. -/
theorem part_range' (paginator : Paginator) (rows : List α) :
    List.range' (paginator.offset + 1) (paginator.part rows).length =
      paginator.part (List.range' 1 rows.length) := by
  by_cases unlimited : paginator.limit = 0
  · simp [part, offset, unlimited]
  · rw [length_part (Nat.pos_of_ne_zero unlimited), part, if_neg unlimited, List.drop_range',
      Nat.mul_one, Nat.add_comm 1]
    rcases Nat.le_total paginator.limit (rows.length - paginator.offset) with full | short
    · rw [Nat.min_eq_left full, List.take_range'_of_length_ge full]
    · rw [Nat.min_eq_right short, List.take_of_length_le (by simpa using short)]

end Paginator

end SqlClient
