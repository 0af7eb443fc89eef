import Mathlib.Data.List.Basic
import SqlClient.Proofs.Attempt
import SqlClient.Proofs.Windows
import SqlClient.Script

/-!
# Pages of a served selection

A server that counts the rows of a selection and answers each of its windows with the rows that the
clause of the window leaves gives up the whole result page by page: the pages in order hold all
rows, each of them once, and number them without a gap.
-/

namespace SqlClient

variable {σ : Type} {server : Server σ} {session : Session σ}

/-! ## All rows of a selection -/

namespace Cursor

variable {cursor : Cursor}

/-- A cursor that has passed no row by and has none to repeat. -/
structure InOrder (cursor : Cursor) : Prop where
  level : cursor.consumed = cursor.position
  fresh : cursor.cached?.map Prod.fst ≠ some cursor.position

/-- In order, the row at the position is taken from the answer. -/
theorem current_of_inOrder (server : Server σ) (inOrder : cursor.InOrder) (session : Session σ) :
    current server (cursor, session) =
      (.ok (cursor.take cursor.position).1, (cursor.take cursor.position).2, session) := by
  rw [current, read_of_fresh inOrder.fresh, read.readAnew,
    if_neg (Nat.not_lt_of_le (Nat.le_of_eq inOrder.level))]

/-- At the end of the answer there is no next row. -/
theorem next_of_ended (server : Server σ) (inOrder : cursor.InOrder)
    (ended : cursor.answer.rows = []) (session : Session σ) :
    ∃ after, next server (cursor, session) = (.ok none, after, session) := by
  have taken : (cursor.take cursor.position).1 = none := by simp [take, ended]
  rw [next, current_of_inOrder server inOrder, taken]
  exact ⟨_, rfl⟩

/-- The next row is the first one left of the answer. -/
theorem next_of_left (server : Server σ) {values : List Scalar} {rest : List (List Scalar)}
    (inOrder : cursor.InOrder) (left : cursor.answer.rows = values :: rest) (session : Session σ) :
    ∃ after, next server (cursor, session) =
        (.ok (some ⟨cursor.answer.columns, values⟩), after, session) ∧
      after.InOrder ∧ after.answer.columns = cursor.answer.columns ∧
      after.answer.rows = rest := by
  have level := inOrder.level
  have taken : cursor.take cursor.position = (some ⟨cursor.answer.columns, values⟩, { cursor with
      answer := { cursor.answer with rows := rest }
      consumed := cursor.position + 1
      cached? := some (cursor.position, ⟨cursor.answer.columns, values⟩) }) := by
    simp [take, level, left]
  rw [next, current_of_inOrder server inOrder, taken]
  exact ⟨_, rfl, ⟨rfl, by simp [seek]⟩, rfl, rfl⟩

/-- A cursor in order reads the rows left of its answer and leaves its session alone. -/
theorem fetchAll_of_inOrder (server : Server σ) (inOrder : cursor.InOrder)
    (session : Session σ) :
    ∃ after, fetchAll server (cursor, session) =
      (.ok (cursor.answer.rows.map (Row.mk cursor.answer.columns)), after, session) := by
  -- Reading a row keeps the cursor in order, with one row less to read.
  generalize left : cursor.answer.rows = rows
  induction rows generalizing cursor with
  | nil =>
      obtain ⟨after, moved⟩ := next_of_ended server inOrder left session
      rw [fetchAll, collect, moved]
      exact ⟨after, rfl⟩
  | cons values rest induction =>
      obtain ⟨middle, moved, later, columns, rows⟩ := next_of_left server inOrder left session
      obtain ⟨after, fetched⟩ := induction later rows
      rw [fetchAll] at fetched
      rw [fetchAll, collect, moved]
      dsimp only
      rw [fetched, columns]
      exact ⟨after, rfl⟩

end Cursor

namespace Session

/-- A selection that is answered gives the rows of the answer. -/
theorem selectStatement_of_answer {statement : Statement} {sql text : String}
    {values : List Scalar} {answer : Answer} {state : σ}
    (sameDialect : statement.dialect = session.dialect) (rendered : statement.render = .ok sql)
    (bound : statement.params.bind session.dialect sql = .ok (text, values))
    (executed : server.execute session.connection text values session.state =
      (.ok answer, state)) :
    selectStatement server statement session =
      (.ok (answer.rows.map (Row.mk answer.columns)),
        noteInsertId answer (session.recorded text values (.ok answer) state)) := by
  have ran := runAs_of_answer bound executed session.inTransaction
  have opened : execute server statement session =
      (.ok (.ofAnswer answer sql statement.params),
        noteInsertId answer (session.recorded text values (.ok answer) state)) := by
    rw [execute, if_pos sameDialect, rendered]
    exact bind_of_ok ran
  have inOrder : (Cursor.ofAnswer answer sql statement.params).InOrder := ⟨rfl, nofun⟩
  obtain ⟨after, fetched⟩ := Cursor.fetchAll_of_inOrder server inOrder
    (noteInsertId answer (session.recorded text values (.ok answer) state))
  rw [selectStatement, bind_of_ok opened, reading, fetched]
  rfl

end Session

/-! ## A served selection -/

/-- The text of a selection is answered in every serving state, in a way told from the text and the
answer, and the server serves on. -/
def Server.Answers (server : Server σ) (connection : Nat) (serves : σ → Prop) (select : Select)
    (meets : String → Answer → Prop) : Prop :=
  ∃ sql text values, select.render = .ok sql ∧
    select.params.bind select.dialect sql = .ok (text, values) ∧
    ∀ state, serves state → ∃ answer after,
      server.execute connection text values state = (.ok answer, after) ∧
        meets sql answer ∧ serves after

/-- The answer to a count: one row with the number. -/
def Answer.Counts (answer : Answer) (total : Nat) : Prop :=
  ∃ values count, answer.rows = [values] ∧
    (Row.mk answer.columns values).int? "total_items" = some count ∧ count.toInt = total

/-- The answer holds those of the rows that a text of a selection asks for. -/
def Answer.Windows (answer : Answer) (columns : List String) (rows : List (List Scalar))
    (select : Select) (sql : String) : Prop :=
  ∃ limit? offset?, select.AsksFor limit? offset? sql ∧ answer.columns = columns ∧
    answer.rows = slice limit? offset? rows

/-- A connection that answers the count of a paginator with the number of the rows, and the window
of each of its pages with the rows that the clause in the text leaves. -/
structure Paginator.Served (server : Server σ) (serves : σ → Prop) (paginator : Paginator)
    (columns : List String) (rows : List (List Scalar)) (session : Session σ) : Prop where
  dialect : session.dialect = paginator.select.dialect
  serving : serves session.state
  counted : server.Answers session.connection serves paginator.countSelect
    fun _ answer => answer.Counts rows.length
  windowed : ∀ number window, 1 ≤ number →
    (paginator.onPage number).window? rows.length = some window →
      server.Answers session.connection serves
        (paginator.select.setLimit window.limit window.offset)
        fun sql answer => answer.Windows columns rows paginator.select sql

/-- The pages of rows: they hold all rows in order and number them without a gap. -/
structure Paginator.Splits (paginator : Paginator) (rows : List Row) (pages : List Page) :
    Prop where
  /-- The pages are told in order how many they are and how many rows there are. -/
  numbered : pages.map (·.current) = List.range' 1 pages.length
  counted : ∀ page ∈ pages, page.last = pages.length ∧ page.totalPages = pages.length ∧
    page.totalItems = rows.length
  /-- No row is lost or repeated. -/
  items_eq : pages.flatMap (·.items) = if paginator.reverse then rows.reverse else rows
  /-- Without a limit there is one page. -/
  single : paginator.limit = 0 → pages.length = 1
  /-- Every page but the last is full, and the last one is not empty. -/
  full : 0 < paginator.limit → ∀ page ∈ pages, page.current < pages.length →
    page.items.length = paginator.limit
  filled : 0 < paginator.limit → ∀ page ∈ pages,
    1 ≤ page.items.length ∧ page.items.length ≤ paginator.limit
  /-- The numbers of the first and the last row of each page span its rows and tile all rows. -/
  spanned : ∀ page ∈ pages, page.lastItem + 1 = page.firstItem + page.items.length
  tiled : pages.flatMap (fun page =>
    List.range' page.firstItem (page.lastItem + 1 - page.firstItem)) = List.range' 1 rows.length

namespace Paginator

variable {serves : σ → Prop} {paginator : Paginator} {columns : List String}
  {rows : List (List Scalar)}

/-- A selection that is answered in every serving state is answered in that way. -/
theorem selectStatement_of_answers {select : Select} {meets : String → Answer → Prop}
    (answers : server.Answers session.connection serves select meets)
    (dialect : session.dialect = select.dialect) (serving : serves session.state) :
    ∃ sql answer after, Session.selectStatement server (.select select) session =
        (.ok (answer.rows.map (Row.mk answer.columns)), after) ∧
      select.render = .ok sql ∧ meets sql answer ∧ serves after.state ∧
      after.connection = session.connection ∧ after.dialect = session.dialect := by
  obtain ⟨sql, text, values, rendered, bound, answered⟩ := answers
  obtain ⟨answer, state, executed, met, serving'⟩ := answered session.state serving
  have bound' : select.params.bind session.dialect sql = .ok (text, values) := by
    rw [dialect]
    exact bound
  have selected : Session.selectStatement server (.select select) session = _ :=
    Session.selectStatement_of_answer dialect.symm rendered bound' executed
  exact ⟨sql, answer, _, selected, rendered, met, serving', rfl, rfl⟩

/-- The number that a count with one row reports. -/
theorem total_of_counts {answer : Answer} {total : Nat} (counts : answer.Counts total) :
    Paginator.total (answer.rows.map (Row.mk answer.columns)) = total := by
  obtain ⟨values, count, single, read, same⟩ := counts
  simp only [Paginator.total, single, List.map_cons, List.map_nil, List.filterMap_cons, read,
    List.filterMap_nil, List.foldl_cons, List.foldl_nil, same, Int.toNat_natCast, Nat.zero_add]

/-- A connection serves on in every serving state. -/
theorem Served.of_same (served : paginator.Served server serves columns rows session)
    {after : Session σ} (serving : serves after.state)
    (connection : after.connection = session.connection)
    (dialect : after.dialect = session.dialect) :
    paginator.Served server serves columns rows after :=
  ⟨dialect.trans served.dialect, serving, by rw [connection]; exact served.counted,
    by rw [connection]; exact served.windowed⟩

/-- The count of a served selection is the number of its rows. -/
theorem Served.count (served : paginator.Served server serves columns rows session) :
    ∃ counts after, Session.selectStatement server (.select paginator.countSelect) session =
        (.ok counts, after) ∧
      Paginator.total counts = rows.length ∧
      paginator.Served server serves columns rows after := by
  obtain ⟨sql, answer, after, selected, -, counts, serving, connection, dialect⟩ :=
    selectStatement_of_answers served.counted served.dialect served.serving
  exact ⟨_, after, selected, total_of_counts counts, served.of_same serving connection dialect⟩

/-- The window of a page of a served selection gives the part of the page. -/
theorem Served.window (served : paginator.Served server serves columns rows session)
    {number : Nat} {window : Window} (numbered : 1 ≤ number)
    (found : (paginator.onPage number).window? rows.length = some window) :
    ∃ after, windowRows server (paginator.onPage number) window session =
        (.ok ((paginator.onPage number).part (paginator.ordered (rows.map (Row.mk columns)))),
          after) ∧
      paginator.Served server serves columns rows after := by
  obtain ⟨sql, answer, after, selected, rendered, windowed, serving, connection, dialect⟩ :=
    selectStatement_of_answers (served.windowed number window numbered found) served.dialect
      served.serving
  obtain ⟨limit?, offset?, asks, same, held⟩ := windowed
  refine ⟨after, ?_, served.of_same serving connection dialect⟩
  have asked := Select.asksFor_setLimit rendered
  have found' : (paginator.onPage number).window? (rows.map (Row.mk columns)).length =
      some window := by rwa [List.length_map]
  have read : windowRows server (paginator.onPage number) window session = _ :=
    Session.bind_of_ok selected
  rw [read, held, same, ← slice_map, Select.slice_of_asksFor asks asked]
  exact congrArg (fun items => (Except.ok items, after)) (ordered_slice_window numbered found')

/-- One page of a served selection. -/
theorem Served.fetch (served : paginator.Served server serves columns rows session)
    {number : Nat} (numbered : 1 ≤ number) :
    ∃ items after, fetch server (paginator.onPage number) session =
        (.ok ((paginator.onPage number).summary rows.length items), after) ∧
      paginator.Served server serves columns rows after ∧
      (number ≤ paginator.lastPage rows.length → items =
        (paginator.onPage number).part (paginator.ordered (rows.map (Row.mk columns)))) := by
  obtain ⟨counts, middle, counted, total, served'⟩ := served.count
  have first : Paginator.fetch server (paginator.onPage number) session = _ :=
    Session.bind_of_ok counted
  rw [first, total]
  by_cases within : number ≤ paginator.lastPage rows.length
  · have found : (paginator.onPage number).window? rows.length =
        some ((paginator.onPage number).window rows.length) := if_pos within
    obtain ⟨after, read, served''⟩ := served'.window numbered found
    refine ⟨_, after, ?_, served'', fun _ => rfl⟩
    rw [found]
    exact Session.bind_of_ok read
  · have absent : (paginator.onPage number).window? rows.length = none := if_neg within
    refine ⟨[], middle, ?_, served', fun inside => absurd inside within⟩
    rw [absent]
    rfl

/-- The page of a number out of rows. -/
def pageOf (paginator : Paginator) (rows : List Row) (number : Nat) : Page :=
  (paginator.onPage number).summary rows.length
    ((paginator.onPage number).part (paginator.ordered rows))

/-- Pages of a served selection are read one after another. -/
theorem Served.mapM_fetch (served : paginator.Served server serves columns rows session)
    {numbers : List Nat} (inside : ∀ number ∈ numbers,
      1 ≤ number ∧ number ≤ paginator.lastPage rows.length) :
    ∃ after, numbers.mapM (fun number => Paginator.fetch server (paginator.onPage number))
        session = (.ok (numbers.map (paginator.pageOf (rows.map (Row.mk columns)))), after) ∧
      paginator.Served server serves columns rows after := by
  induction numbers generalizing session with
  | nil => exact ⟨session, rfl, served⟩
  | cons number rest induction =>
      obtain ⟨⟨numbered, within⟩, inside⟩ := List.forall_mem_cons.1 inside
      obtain ⟨items, middle, fetched, served', held⟩ := served.fetch numbered
      obtain ⟨after, later, served''⟩ := induction served' inside
      refine ⟨after, ?_, served''⟩
      rw [List.mapM_cons, Session.bind_of_ok fetched, Session.bind_of_ok later, held within,
        List.map_cons, pageOf, List.length_map]
      rfl

/-- All pages of a selection; the first one tells how many there are. -/
def fetchPages (server : Server σ) (paginator : Paginator) : Session.Action σ (List Page) := do
  let first ← fetch server (paginator.onPage 1)
  (List.range' 1 first.last).mapM fun number => fetch server (paginator.onPage number)

theorem ordered_length (paginator : Paginator) (rows : List Row) :
    (paginator.ordered rows).length = rows.length := by
  unfold ordered
  split <;> simp

theorem current_pageOf {number : Nat} (numbered : 1 ≤ number) (paginator : Paginator)
    (rows : List Row) : (paginator.pageOf rows number).current = number :=
  Nat.max_eq_left numbered

/-- The rows of a page are numbered by the part of the page of all numbers. -/
theorem numbers_pageOf (paginator : Paginator) (rows : List Row) (number : Nat) :
    List.range' (paginator.pageOf rows number).firstItem
        ((paginator.pageOf rows number).lastItem + 1 - (paginator.pageOf rows number).firstItem) =
      (paginator.onPage number).part (List.range' 1 rows.length) := by
  have span : (paginator.pageOf rows number).lastItem + 1 -
      (paginator.pageOf rows number).firstItem =
        ((paginator.onPage number).part (paginator.ordered rows)).length := by
    simp only [pageOf, summary]
    omega
  rw [span, ← paginator.ordered_length rows]
  exact part_range' (paginator.onPage number) (paginator.ordered rows)

/-- The pages of rows, in order, split the rows. -/
theorem splits_pageOf (paginator : Paginator) (rows : List Row) :
    paginator.Splits rows
      ((List.range' 1 (paginator.lastPage rows.length)).map (paginator.pageOf rows)) := by
  have size := paginator.ordered_length rows
  have count : ((List.range' 1 (paginator.lastPage rows.length)).map
      (paginator.pageOf rows)).length = paginator.lastPage rows.length := by
    rw [List.length_map, List.length_range']
  have inside : ∀ page ∈ (List.range' 1 (paginator.lastPage rows.length)).map
      (paginator.pageOf rows), ∃ number, 1 ≤ number ∧
        number ≤ paginator.lastPage (paginator.ordered rows).length ∧
        page = paginator.pageOf rows number := by
    intro page member
    obtain ⟨number, listed, rfl⟩ := List.mem_map.1 member
    rw [List.mem_range'_1] at listed
    exact ⟨number, listed.1, by rw [size]; omega, rfl⟩
  refine ⟨?numbered, ?counted, ?items, ?single, ?full, ?filled, ?spanned, ?tiled⟩
  case numbered =>
    rw [count, List.map_map]
    refine (List.map_congr_left fun number listed => ?_).trans (List.map_id _)
    exact current_pageOf (List.mem_range'_1.1 listed).1 paginator rows
  case counted =>
    intro page member
    obtain ⟨number, -, -, rfl⟩ := inside page member
    exact ⟨count.symm, count.symm, rfl⟩
  case items =>
    have whole := paginator.flatMap_part (paginator.ordered rows)
    rw [size] at whole
    rw [List.flatMap_map]
    exact whole
  case single =>
    intro unlimited
    rw [count, lastPage, if_pos unlimited]
  case full =>
    intro limited page member before
    obtain ⟨number, numbered, -, rfl⟩ := inside page member
    rw [current_pageOf numbered, count, ← size] at before
    have full : ((paginator.onPage number).part (paginator.ordered rows)).length = _ :=
      length_part_of_lt limited numbered before
    exact full
  case filled =>
    intro limited page member
    obtain ⟨number, numbered, within, rfl⟩ := inside page member
    have bounds : 1 ≤ ((paginator.onPage number).part (paginator.ordered rows)).length ∧ _ :=
      length_part_bounds limited numbered within
    exact bounds
  case spanned =>
    intro page member
    obtain ⟨number, -, -, rfl⟩ := inside page member
    simp only [pageOf, summary]
    omega
  case tiled =>
    have tiled := paginator.flatMap_part (List.range' 1 rows.length)
    rw [List.length_range'] at tiled
    rw [List.flatMap_map]
    simpa only [numbers_pageOf] using tiled

/-- Read page by page, a served selection gives up all its rows in order. -/
theorem splits_of_served (served : paginator.Served server serves columns rows session) :
    ∃ pages after, fetchPages server paginator session = (.ok pages, after) ∧
      paginator.Splits (rows.map (Row.mk columns)) pages := by
  obtain ⟨items, middle, fetched, served', -⟩ := served.fetch (Nat.le_refl 1)
  have inside : ∀ number ∈ List.range' 1 (paginator.lastPage rows.length),
      1 ≤ number ∧ number ≤ paginator.lastPage rows.length := by
    intro number member
    rw [List.mem_range'_1] at member
    omega
  obtain ⟨after, read, -⟩ := served'.mapM_fetch inside
  refine ⟨_, after, (Session.bind_of_ok fetched).trans read, ?_⟩
  simpa using splits_pageOf paginator (rows.map (Row.mk columns))

end Paginator

/-! ## A scripted table -/

/-- The states of a script without failures: the answers stay. -/
def Script.Repeats (script state : Script) : Prop :=
  state.breakdowns = [] ∧ state.responses = script.responses

theorem Script.answers {script : Script} {connection : Nat} {select : Select} {sql text : String}
    {values : List Scalar} {meets : String → Answer → Prop} (rendered : select.render = .ok sql)
    (bound : select.params.bind select.dialect sql = .ok (text, values))
    (met : meets sql (script.answerOf text)) :
    Script.server.Answers connection script.Repeats select meets := by
  refine ⟨sql, text, values, rendered, bound, ?_⟩
  rintro state ⟨calm, same⟩
  have answered : state.answerOf text = script.answerOf text := by
    rw [Script.answerOf, Script.answerOf, same]
  refine ⟨script.answerOf text, state.note ⟨connection, text, values⟩, ?_, met, calm, same⟩
  change Script.execute connection text values state = _
  rw [Script.execute, calm, Script.fail?, answered]

/-- The window of a selection is answered from a script. -/
theorem Script.answers_window {script : Script} {connection : Nat} {select : Select}
    {limit offset : Nat} {sql text : String} {values : List Scalar} {columns : List String}
    {rows : List (List Scalar)} (rendered : (select.setLimit limit offset).render = .ok sql)
    (bound : (select.setLimit limit offset).params.bind select.dialect sql = .ok (text, values))
    (answered : script.answerOf text = .ofRows columns (slice (select.setLimit limit offset).limit?
      (select.setLimit limit offset).offset? rows)) :
    Script.server.Answers connection script.Repeats (select.setLimit limit offset)
      fun sql answer => answer.Windows columns rows select sql := by
  refine Script.answers rendered bound ?_
  rw [answered]
  exact ⟨_, _, Select.asksFor_setLimit rendered, rfl, rfl⟩

namespace Paginator

/-- A table with two rows on a page, counted from the end. -/
def backwards : Paginator where
  select := { Select.empty .sqlite with sources := [.table (.raw "items")], orderBy := ["id"] }
  limit := 2
  page := 1
  reverse := true

/-- Five rows, their count and the windows of their pages. -/
def fiveRows : Script :=
  { responses := [⟨"COUNT(*)", .ofRows ["total_items"] [[.int 5]]⟩,
      ⟨" LIMIT 1", .ofRows ["id"] [[.int 1]]⟩,
      ⟨" LIMIT 2 OFFSET 1", .ofRows ["id"] [[.int 2], [.int 3]]⟩,
      ⟨" LIMIT 2 OFFSET 3", .ofRows ["id"] [[.int 4], [.int 5]]⟩] }

/-- Pages of five rows from the end: two full ones and a short one. -/
theorem splits_of_served_backwards :
    let rows : List (List Scalar) := [[.int 1], [.int 2], [.int 3], [.int 4], [.int 5]]
    let session : Session Script :=
      { settings := { driver := "sqlite" }, dialect := .sqlite, state := fiveRows, connection := 1,
        depth := 0, policy := .disabled, insertId? := none, journal? := none }
    backwards.Served Script.server fiveRows.Repeats ["id"] rows session ∧
      ∃ pages after, fetchPages Script.server backwards session = (.ok pages, after) ∧
        backwards.Splits (rows.map (Row.mk ["id"])) pages := by
  intro rows session
  have served : backwards.Served Script.server fiveRows.Repeats ["id"] rows session := by
    refine ⟨rfl, ⟨rfl, rfl⟩, ?counted, ?windowed⟩
    case counted =>
      have rendered : backwards.countSelect.render =
          .ok "SELECT COUNT(*) AS total_items FROM items" := by decide +kernel
      have bound : backwards.countSelect.params.bind .sqlite
          "SELECT COUNT(*) AS total_items FROM items" =
            .ok ("SELECT COUNT(*) AS total_items FROM items", []) := rfl
      exact Script.answers rendered bound ⟨[.int 5], 5, by decide +kernel⟩
    case windowed =>
      intro number window numbered found
      obtain ⟨within, rfl⟩ := window?_eq_some.1 found
      have three : backwards.lastPage 5 = 3 := by decide
      change number ≤ backwards.lastPage 5 at within
      rw [three] at within
      obtain rfl | rfl | rfl : number = 1 ∨ number = 2 ∨ number = 3 := by omega
      · have rendered : (backwards.select.setLimit 2 3).render =
            .ok "SELECT * FROM items ORDER BY \"id\" LIMIT 2 OFFSET 3" := by decide +kernel
        exact Script.answers_window rendered rfl (by decide +kernel)
      · have rendered : (backwards.select.setLimit 2 1).render =
            .ok "SELECT * FROM items ORDER BY \"id\" LIMIT 2 OFFSET 1" := by decide +kernel
        exact Script.answers_window rendered rfl (by decide +kernel)
      · have rendered : (backwards.select.setLimit 1 0).render =
            .ok "SELECT * FROM items ORDER BY \"id\" LIMIT 1" := by decide +kernel
        exact Script.answers_window rendered rfl (by decide +kernel)
  exact ⟨served, splits_of_served served⟩

end Paginator

end SqlClient
