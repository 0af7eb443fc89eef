import SqlClient.Proofs.Cutting
import SqlClient.Proofs.Navigation
import SqlClient.Proofs.Unsent

/-!
# Limits of windows

A page of a limited size asks for as many rows at most, whatever the server answers and however
often it has to be asked: the text that is sent ends with the limit, behind all placeholders. The
exception is page zero of no rows at all counted from the end, for which no limit is written.
-/

namespace SqlClient

/-! ## The end of a bound text -/

namespace Piece

variable {dialect : Dialect} {chars tail : List Char} {pieces : List Piece}

theorem Cut.mem_of_mem (cut : Cut dialect chars pieces) {piece : Piece} (member : piece ∈ pieces)
    {char : Char} (inside : char ∈ piece.chars) : char ∈ chars := by
  rw [← cut.flatMap_chars]
  exact List.mem_flatMap.2 ⟨piece, member, inside⟩

/-- A text without the characters that begin placeholders has none. -/
theorem Cut.isPlaceholder_eq_false (cut : Cut dialect chars pieces) (colon : ':' ∉ chars)
    (mark : '?' ∉ chars) : ∀ piece ∈ pieces, Params.isPlaceholder piece = false := by
  intro piece member
  cases piece with
  | fixed text => rfl
  | name letters => exact absurd (cut.mem_of_mem member List.mem_cons_self) colon
  | mark => exact absurd (cut.mem_of_mem member List.mem_cons_self) mark

/-- A placeholder ends in front of a tail that cannot belong to one. -/
theorem Leads.straddle {piece : Piece} {rest head beyond : List Char}
    (leads : Leads dialect piece rest) (split : piece.chars = head ++ beyond)
    (filled : beyond ≠ []) (colon : ':' ∉ beyond)
    (mark : '?' ∉ beyond) (stops : ∀ next ∈ beyond.head?, continuesName next = false) :
    Params.isPlaceholder piece = false := by
  obtain ⟨next, beyond, rfl⟩ := List.exists_cons_of_ne_nil filled
  cases leads with
  | name valid longest =>
      cases head with
      | nil =>
          obtain ⟨rfl, -⟩ := List.cons.inj split
          exact absurd List.mem_cons_self colon
      | cons first head =>
          obtain ⟨-, rfl⟩ := List.cons.inj split
          have continues := continuesName_of_isParamName valid next (by simp)
          rw [stops next rfl] at continues
          cases continues
  | mark numbered rest =>
      have inside : next ∈ Piece.mark.chars := by
        rw [split]
        exact List.mem_append_right head List.mem_cons_self
      obtain rfl := List.mem_singleton.1 inside
      exact absurd List.mem_cons_self mark
  | quoted | line | block | cast | plain => rfl

theorem written_cons_append {replaced : Piece → Bool}
    (later : ∀ position, ∃ front, Params.written dialect replaced position pieces = front ++ tail)
    (piece : Piece) (position : Nat) :
    ∃ front, Params.written dialect replaced position (piece :: pieces) = front ++ tail := by
  rw [Params.written]
  split
  · obtain ⟨front, written⟩ := later (position + 1)
    exact ⟨_ ++ front, by rw [written, List.append_assoc]⟩
  · obtain ⟨front, written⟩ := later position
    exact ⟨_ ++ front, by rw [written, List.append_assoc]⟩

/-- Placeholders are replaced in front of such a tail, which stays as it is. -/
theorem Cut.written_append {replaced : Piece → Bool}
    (fewer : ∀ piece, Params.isPlaceholder piece = false → replaced piece = false)
    (colon : ':' ∉ tail) (mark : '?' ∉ tail)
    (stops : ∀ next ∈ tail.head?, continuesName next = false)
    (cut : Cut dialect chars pieces) (head : List Char) (whole : chars = head ++ tail)
    (position : Nat) : ∃ front, Params.written dialect replaced position pieces = front ++ tail := by
  induction cut generalizing head position with
  | nil =>
      obtain ⟨-, rfl⟩ := List.append_eq_nil_iff.1 whole.symm
      exact ⟨[], rfl⟩
  | @cons piece rest pieces leads cut ih =>
      rcases List.append_eq_append_iff.1 whole with ⟨before, -, same⟩ | ⟨beyond, split, same⟩
      · exact written_cons_append (ih before same) piece position
      · by_cases filled : beyond = []
        · subst filled
          exact written_cons_append (ih [] same.symm) piece position
        · -- the piece reaches into the tail, and there are only fixed ones behind it
          subst same
          rw [List.mem_append, not_or] at colon mark
          have later := cut.isPlaceholder_eq_false colon.2 mark.2
          have behind : Params.written dialect replaced position pieces = rest := by
            rw [Params.written_of_forall fun piece member => fewer piece (later piece member),
              cut.flatMap_chars]
          have kept := fewer piece (leads.straddle split filled colon.1 mark.1 fun next first =>
            stops next (by rw [List.head?_append_of_ne_nil _ filled]; exact first))
          refine ⟨head, ?_⟩
          rw [Params.written, if_neg (by simp [kept]), behind, split, List.append_assoc]

end Piece

/-- A tail that neither holds a placeholder nor goes on with one stays at the end of a text that is
bound. -/
theorem Params.exists_append_of_bind {dialect : Dialect} {params : Params}
    {head tail text : String} {values : List Scalar}
    (bound : params.bind dialect (head ++ tail) = .ok (text, values)) (colon : ':' ∉ tail.toList)
    (mark : '?' ∉ tail.toList)
    (stops : ∀ next ∈ tail.toList.head?, Piece.continuesName next = false) :
    ∃ front, text = front ++ tail := by
  have cut : Piece.Cut dialect (head ++ tail).toList (Piece.ofChars dialect (head ++ tail).toList) :=
    (Piece.cut_iff _ _).2 rfl
  have ended : ∀ replaced : Piece → Bool,
      (∀ piece, isPlaceholder piece = false → replaced piece = false) →
        text.toList =
          written dialect replaced 1 (Piece.ofChars dialect (head ++ tail).toList) →
          ∃ front, text = front ++ tail := by
    intro replaced fewer same
    obtain ⟨front, written⟩ :=
      cut.written_append fewer colon mark stops head.toList String.toList_append 1
    refine ⟨String.ofList front, String.toList_injective ?_⟩
    rw [same, written, String.toList_append, String.toList_ofList]
  cases params with
  | none =>
      obtain ⟨rfl, -⟩ := Prod.mk.inj (Except.ok.inj bound)
      exact ⟨head, rfl⟩
  | positional given =>
      obtain ⟨out, done, same, -⟩ := bind_positional dialect (head ++ tail) given
      obtain ⟨rfl, -⟩ := Prod.mk.inj (Except.ok.inj (done.symm.trans bound))
      exact ended isMark (fun piece => by cases piece <;> simp [isMark, isPlaceholder]) same
  | named pairs => exact ended isPlaceholder (fun _ => id) (bind_named_eq_ok_iff.1 bound).1

/-! ## What is sent to run a text -/

/-- What is exchanged while a text is run, inside a transaction or outside. -/
inductive Exchange.Running (text : String) (values : List Scalar) (inside : Bool) :
    Exchange → Prop where
  | sent (connection : Nat) (result : Except ServerError Answer) :
      Running text values inside (.executed connection text values result)
  | connected (result : Except ServerError Nat) : Running text values inside (.connected result)
  /-- The end of a transaction that is given up. -/
  | abandoned (within : inside = true) (connection : Nat) (result : Except ServerError Answer) :
      Running text values inside (.executed connection "ROLLBACK" [] result)

namespace Session

variable {σ : Type} {server : Server σ} {text : String} {values : List Scalar} {inside : Bool}

/-- A session went on with exchanges of a kind. -/
def Adds (kind : Exchange → Prop) (session after : Session (σ × List Exchange)) : Prop :=
  ∃ later, after.exchanges = session.exchanges ++ later ∧ ∀ exchange ∈ later, kind exchange

theorem Adds.trans {kind : Exchange → Prop} {session middle after : Session (σ × List Exchange)}
    (first : Adds kind session middle) (second : Adds kind middle after) :
    Adds kind session after := by
  obtain ⟨left, noted, leftKind⟩ := first
  obtain ⟨right, notedAgain, rightKind⟩ := second
  refine ⟨left ++ right, by rw [notedAgain, noted, List.append_assoc], ?_⟩
  exact List.forall_mem_append.2 ⟨leftKind, rightKind⟩

theorem adds_attempt {session after : Session (σ × List Exchange)}
    {result : Except ServerError Answer}
    (attempted : attempt server.logged text values session = (result, after)) :
    Adds (Exchange.Running text values inside) session after :=
  ⟨_, exchanges_of_attempt attempted, List.forall_mem_singleton.2 (.sent _ _)⟩

theorem adds_abandon (within : inside = true) (session : Session (σ × List Exchange)) :
    Adds (Exchange.Running text values inside) session (abandon server.logged session) := by
  obtain ⟨answer, noted, -⟩ := abandon_logged server session
  exact ⟨_, noted, List.forall_mem_singleton.2 (.abandoned within _ _)⟩

theorem adds_reconnectUntil (session : Session (σ × List Exchange)) :
    Adds (Exchange.Running text values inside) session (reconnectUntil server.logged session) := by
  obtain ⟨refusals, connection, noted, -⟩ := reconnectUntil_logged server session
  refine ⟨_, noted, List.forall_mem_append.2 ⟨?_, List.forall_mem_singleton.2 (.connected _)⟩⟩
  exact List.forall_mem_map.2 fun error _ => .connected _

/-- However often a text has to be sent, nothing else is sent in its place. -/
theorem adds_persist (server : Server σ) (text : String) (values : List Scalar) (inside : Bool)
    (session : Session (σ × List Exchange)) :
    Adds (Exchange.Running text values inside) session
      (persist server.logged text values inside session).2 := by
  fun_induction persist server.logged text values inside session with
  | case1 inside session answer after attempted =>
      have noted : Adds (Exchange.Running text values inside) session after :=
        adds_attempt attempted
      exact noted
  | case2 inside session source after attempted => exact adds_attempt attempted
  | case3 session source after attempted =>
      exact (adds_attempt attempted).trans (adds_abandon rfl after)
  | case4 inside session source after attempted kind outside ih =>
      obtain rfl : inside = false := by simpa using outside
      exact (adds_attempt attempted).trans ih
  | case5 inside session source after attempted => exact adds_attempt attempted
  | case6 session source after attempted =>
      exact (adds_attempt attempted).trans (adds_reconnectUntil after)
  | case7 inside session source after attempted kind pause policy outside ih =>
      obtain rfl : inside = false := by simpa using outside
      exact (adds_attempt attempted).trans ((adds_reconnectUntil after).trans ih)

/-- A statement that is answered has a cursor that has passed no row by. -/
theorem inOrder_of_execute {server : Server σ} {statement : Statement} {session after : Session σ}
    {cursor : Cursor} (opened : execute server statement session = (.ok cursor, after)) :
    cursor.InOrder := by
  rw [execute] at opened
  split at opened
  · split at opened
    · cases opened
    · next sql rendered =>
      rw [query, bind_pure] at opened
      obtain ⟨answer, -, rfl⟩ := map_eq_ok.1 (Prod.mk.inj opened).1
      exact ⟨rfl, by simp [Cursor.ofAnswer]⟩
  · cases opened

/-- Reading all rows of a statement asks for nothing but the statement. -/
theorem snd_selectStatement (server : Server σ) (statement : Statement) (session : Session σ) :
    (selectStatement server statement session).2 =
      ((Request.execute statement).perform server session).2 := by
  have performed : ((Request.execute statement).perform server session).2 =
      (execute server statement session).2 := rfl
  rw [performed, selectStatement, run_bind]
  cases opened : execute server statement session with
  | mk result after =>
    cases result with
    | error error => rfl
    | ok cursor =>
        obtain ⟨last, fetched⟩ :=
          Cursor.fetchAll_of_inOrder server (inOrder_of_execute opened) after
        simp only [reading, fetched]

/-- What is prepared for a statement is its text with the parameters bound. -/
theorem bind_of_prepare {statement : Statement} {dialect : Dialect} {text : String}
    {values : List Scalar}
    (prepared : (Request.execute statement).prepare dialect = .ok (text, values)) :
    ∃ sql, statement.render = .ok sql ∧ statement.params.bind dialect sql = .ok (text, values) := by
  rw [Request.prepare] at prepared
  split at prepared
  · cases prepared
  · obtain ⟨sql, rendered, bound⟩ := bind_eq_ok.1 prepared
    exact ⟨sql, mapError_eq_ok.1 rendered, mapError_eq_ok.1 bound⟩

/-- The rows of a statement are asked for with its text or, where it has none, not at all. -/
theorem adds_selectStatement (server : Server σ) (statement : Statement)
    (session : Session (σ × List Exchange)) :
    (selectStatement server.logged statement session).2 = session ∨
      ∃ sql text values, statement.render = .ok sql ∧
        statement.params.bind session.dialect sql = .ok (text, values) ∧
        Adds (Exchange.Running text values session.inTransaction) session
          (selectStatement server.logged statement session).2 := by
  rw [snd_selectStatement, Request.perform_eq]
  cases prepared : (Request.execute statement).prepare session.dialect with
  | error error => exact .inl rfl
  | ok pair =>
      obtain ⟨text, values⟩ := pair
      obtain ⟨sql, rendered, bound⟩ := bind_of_prepare prepared
      exact .inr ⟨sql, text, values, rendered, bound,
        adds_persist server text values session.inTransaction session⟩

/-- A selection that is answered at once is exchanged once. -/
theorem selectStatement_logged {server : Server σ} {select : Select} {sql text : String}
    {values : List Scalar} {answer : Answer} {state : σ} (session : Session (σ × List Exchange))
    (same : select.dialect = session.dialect) (rendered : select.render = .ok sql)
    (bound : select.params.bind session.dialect sql = .ok (text, values))
    (executed : server.execute session.connection text values session.state.1 =
      (.ok answer, state)) :
    ∃ after, selectStatement server.logged (.select select) session =
        (.ok (answer.rows.map (Row.mk answer.columns)), after) ∧
      after.state = (state, session.exchanges ++
        [.executed session.connection text values (.ok answer)]) ∧
      after.connection = session.connection ∧ after.dialect = session.dialect := by
  have selected : selectStatement server.logged (.select select) session = _ :=
    selectStatement_of_answer same rendered bound (execute_logged executed)
  exact ⟨_, selected, rfl, rfl, rfl⟩

end Session

/-! ## Windows with a limit -/

namespace Select

theorem ordinary_windowClause (limit : Nat) (offset? : Option Nat) :
    (windowClause (some limit) offset?).toList.all Piece.isOrdinary = true := by
  have digits := ordinary_nat limit
  rw [toList_windowClause_some, List.all_append, List.all_append, digits]
  cases offset? with
  | none => decide
  | some offset =>
      have behind : (offsetChars (some offset)).all Piece.isOrdinary = true := by
        rw [offsetChars, List.all_cons, List.all_append, ordinary_nat offset]
        decide
      rw [behind]
      decide

theorem ordinary_lockClause {dialect : Dialect} {lock? : Option Lock} {lock : String}
    (locked : lockClause dialect lock? = .ok lock) : lock.toList.all Piece.isOrdinary = true := by
  rcases lock? with - | - | -
  · cases locked
    decide
  · cases locked
    decide
  · cases dialect <;> cases locked <;> decide

/-- A text to send for a window of a selection, which ends with a limit from one to a number of rows
and the lock. -/
def Limited (select : Select) (dialect : Dialect) (most : Nat) (text : String)
    (values : List Scalar) : Prop :=
  ∃ limit offset? sql front lock, 1 ≤ limit ∧ limit ≤ most ∧
    select.AsksFor (some limit) offset? sql ∧
    select.params.bind dialect sql = .ok (text, values) ∧
    lockClause select.dialect select.lock? = .ok lock ∧
    text = front ++ (windowClause (some limit) offset? ++ lock)

theorem params_setLimit (select : Select) (limit offset : Nat) :
    (select.setLimit limit offset).params = select.params := by
  have same : (select.setLimit limit offset).mergeBinds [] = select.mergeBinds [] := by
    cases select
    simp only [setLimit, Select.mergeBinds]
  rw [params, params, same]
  rfl

/-- The text of a window has a limit if the window has one. -/
theorem limited_of_render {select : Select} {dialect : Dialect} {limit offset most : Nat}
    {sql text : String} {values : List Scalar} (positive : 1 ≤ limit) (within : limit ≤ most)
    (rendered : (select.setLimit limit offset).render = .ok sql)
    (bound : (select.setLimit limit offset).params.bind dialect sql = .ok (text, values)) :
    select.Limited dialect most text values := by
  have asks := asksFor_setLimit rendered
  have written : (select.setLimit limit offset).limit? = some limit :=
    if_neg (Nat.ne_of_gt positive)
  rw [written] at asks
  rw [params_setLimit] at bound
  obtain ⟨head, lock, unwindowed, locked, rfl⟩ := asks
  generalize (select.setLimit limit offset).offset? = offset? at bound
  have ordinary : ∀ char ∈ (windowClause (some limit) offset? ++ lock).toList,
      Piece.isOrdinary char = true := by
    rw [← List.all_eq_true, String.toList_append, List.all_append, ordinary_windowClause,
      ordinary_lockClause locked]
    rfl
  have blank : (windowClause (some limit) offset? ++ lock).toList.head? = some ' ' := by
    rw [String.toList_append, toList_windowClause_some]
    rfl
  have whole := bound
  rw [String.append_assoc] at whole
  obtain ⟨front, same⟩ := Params.exists_append_of_bind whole
    (fun colon => absurd (ordinary ':' colon) (by decide))
    (fun mark => absurd (ordinary '?' mark) (by decide))
    (by rw [blank]; rintro next ⟨⟩; decide)
  exact ⟨limit, offset?, _, front, lock, positive, within, ⟨head, lock, unwindowed, locked, rfl⟩,
    bound, locked, same⟩

/-- The text of a selection without a limit asks for more rows than any limit leaves. -/
theorem not_asksFor_of_unlimited {select : Select} {limit : Nat} {offset? : Option Nat}
    {sql : String} (unlimited : select.limit? = none) (rendered : select.render = .ok sql) :
    ¬select.AsksFor (some limit) offset? sql := by
  intro asks
  have whole := asksFor_of_render rendered
  rw [unlimited] at whole
  have same := slice_of_asksFor whole asks (List.replicate (limit + 1) ())
  have lengths := congrArg List.length same
  simp only [slice, List.length_take, List.length_replicate] at lengths
  omega

end Select

namespace Paginator

/-- The limit of a window is between one and the size of a page, except for page zero of no rows
counted from the end. -/
theorem limit_window_bounds {paginator : Paginator} {total : Nat} (limited : 0 < paginator.limit)
    (within : paginator.page ≤ paginator.lastPage total)
    (filled : paginator.reverse = true → paginator.page = 0 → total ≠ 0) :
    1 ≤ (paginator.window total).limit ∧ (paginator.window total).limit ≤ paginator.limit := by
  rw [window]
  split
  · next backwards =>
    split
    · exact ⟨limited, Nat.le_refl _⟩
    · next short =>
      have begun : paginator.offset < total := by
        rcases Nat.eq_zero_or_pos paginator.page with zero | numbered
        · have start : paginator.offset = 0 := by simp [offset, zero]
          have rows := filled backwards.1 zero
          omega
        · exact offset_lt limited numbered within
      dsimp only
      omega
  · exact ⟨limited, Nat.le_refl _⟩

variable {σ : Type}

/-- After the count, a page asks for its window and for nothing else. -/
theorem snd_fetch_of_window {server : Server σ} {paginator : Paginator}
    {session counted : Session σ} {counts : List Row} {window : Window}
    (done : Session.selectStatement server (.select paginator.countSelect) session =
      (.ok counts, counted)) (found : paginator.window? (total counts) = some window) :
    (fetch server paginator session).2 = (Session.selectStatement server
      (.select (paginator.select.setLimit window.limit window.offset)) counted).2 := by
  rw [fetch_of_window done found]
  exact congrArg Prod.snd (Session.bind_pure _ _ counted)

/-- Whatever is sent for a page once its rows are counted, and however often, is its window with a
limit from one to the size of a page, or the end of a transaction that is given up. Nothing is sent
if the count failed or the page is past the last one. -/
theorem limited_of_fetch (server : Server σ) (paginator : Paginator)
    (limited : 0 < paginator.limit) (session : Session (σ × List Exchange))
    {result : Except SessionError (List Row)} {counted : Session (σ × List Exchange)}
    (done : Session.selectStatement server.logged (.select paginator.countSelect) session =
      (result, counted))
    (filled : ∀ counts, result = .ok counts → paginator.reverse = true → paginator.page = 0 →
      total counts ≠ 0) :
    ∃ later, (fetch server.logged paginator session).2.exchanges = counted.exchanges ++ later ∧
      ((∀ counts, result = .ok counts → paginator.lastPage (total counts) < paginator.page) →
        later = []) ∧
      ∀ connection text values answer, .executed connection text values answer ∈ later →
        (counted.inTransaction = true ∧ text = "ROLLBACK" ∧ values = []) ∨
          paginator.select.Limited counted.dialect paginator.limit text values := by
  cases result with
  | error error =>
      refine ⟨[], ?_, fun _ => rfl, by simp⟩
      rw [fetch_of_uncounted done, List.append_nil]
  | ok counts =>
      cases found : paginator.window? (total counts) with
      | none =>
          refine ⟨[], ?_, fun _ => rfl, by simp⟩
          rw [fetch_of_past done found, List.append_nil]
      | some window =>
          obtain ⟨within, rfl⟩ := window?_eq_some.1 found
          obtain ⟨positive, most⟩ := limit_window_bounds limited within (filled counts rfl)
          rw [snd_fetch_of_window done found]
          rcases Session.adds_selectStatement server (.select (paginator.select.setLimit
            (paginator.window (total counts)).limit (paginator.window (total counts)).offset))
              counted with same | ⟨sql, text, values, rendered, bound, later, noted, kind⟩
          · refine ⟨[], by rw [same, List.append_nil], fun _ => rfl, by simp⟩
          · refine ⟨later, noted, fun past => ?_, ?_⟩
            · exact absurd within (Nat.not_le_of_lt (past counts rfl))
            · intro connection sent given answer member
              cases kind _ member with
              | sent => exact .inr (Select.limited_of_render positive most rendered bound)
              | abandoned inside => exact .inl ⟨inside, rfl, rfl⟩

/-- A window that is answered at once is exchanged once. -/
theorem exchanges_fetch_of_answer {server : Server σ} {paginator : Paginator}
    {session counted : Session (σ × List Exchange)} {counts : List Row} {window : Window}
    {sql text : String} {values : List Scalar} {answer : Answer} {state : σ}
    (done : Session.selectStatement server.logged (.select paginator.countSelect) session =
      (.ok counts, counted)) (found : paginator.window? (total counts) = some window)
    (same : (paginator.select.setLimit window.limit window.offset).dialect = counted.dialect)
    (rendered : (paginator.select.setLimit window.limit window.offset).render = .ok sql)
    (bound : (paginator.select.setLimit window.limit window.offset).params.bind counted.dialect
      sql = .ok (text, values))
    (executed : server.execute counted.connection text values counted.state.1 =
      (.ok answer, state)) :
    (fetch server.logged paginator session).2.exchanges =
      counted.exchanges ++ [.executed counted.connection text values (.ok answer)] := by
  obtain ⟨after, asked, noted, -⟩ :=
    Session.selectStatement_logged counted same rendered bound executed
  rw [snd_fetch_of_window done found, asked, Session.exchanges, noted]

/-- A session with a scripted server that notes what it is asked. -/
def noting (script : Script) : Session (Script × List Exchange) :=
  { settings := { driver := "sqlite" }, dialect := .sqlite, state := (script, []), connection := 1,
    depth := 0, policy := .disabled, insertId? := none, journal? := none }

/-- The text that counts the rows of the table. -/
def countText : String :=
  "SELECT COUNT(*) AS total_items FROM items"

theorem exists_counted {script state : Script} {count : Answer} {rows : Nat}
    (counts : count.Counts rows)
    (answered : Script.server.execute 1 countText [] script = (.ok count, state)) :
    ∃ given counted, Session.selectStatement Script.server.logged (.select backwards.countSelect)
        (noting script) = (.ok given, counted) ∧ total given = rows ∧
      counted.state.1 = state ∧ counted.connection = 1 ∧ counted.dialect = .sqlite := by
  have rendered : backwards.countSelect.render = .ok countText := by decide +kernel
  obtain ⟨counted, selected, noted, connection, dialect⟩ :=
    Session.selectStatement_logged (noting script) rfl rendered rfl answered
  exact ⟨_, counted, selected, total_of_counts counts, congrArg Prod.fst noted, connection, dialect⟩

/-- The first page of five rows, counted from the end, asks for two rows. -/
theorem limited_of_fetch_backwards :
    let sql := "SELECT * FROM items ORDER BY \"id\" LIMIT 2 OFFSET 3"
    let answer := Answer.ofRows ["id"] [[.int 4], [.int 5]]
    0 < backwards.limit ∧
      ∃ counts counted, Session.selectStatement Script.server.logged
          (.select backwards.countSelect) (noting fiveRows) = (.ok counts, counted) ∧
        (backwards.reverse = true → backwards.page = 0 → total counts ≠ 0) ∧
        (fetch Script.server.logged backwards (noting fiveRows)).2.exchanges =
          counted.exchanges ++ [.executed 1 sql [] (.ok answer)] ∧
        backwards.select.Limited .sqlite backwards.limit sql [] := by
  intro sql answer
  let count := Answer.ofRows ["total_items"] [[.int 5]]
  have five : count.Counts 5 := ⟨[.int 5], 5, by decide +kernel⟩
  have answered : Script.server.execute 1 countText [] fiveRows =
      (.ok count, fiveRows.note ⟨1, countText, []⟩) := by decide +kernel
  obtain ⟨counts, counted, selected, sum, state, connection, dialect⟩ :=
    exists_counted five answered
  have found : backwards.window? (total counts) = some ⟨2, 3⟩ := by
    rw [sum]
    decide
  have rendered : (backwards.select.setLimit 2 3).render = .ok sql := by decide +kernel
  have executed : Script.server.execute counted.connection sql [] counted.state.1 =
      (.ok answer, (fiveRows.note ⟨1, countText, []⟩).note ⟨1, sql, []⟩) := by
    rw [connection, state]
    decide +kernel
  have sent := exchanges_fetch_of_answer selected found dialect.symm rendered
    (by rw [dialect]; rfl) executed
  have filled : backwards.reverse = true → backwards.page = 0 → total counts ≠ 0 :=
    fun _ zero => absurd zero (by decide)
  obtain ⟨later, same, -, limits⟩ := limited_of_fetch Script.server backwards (by decide)
    (noting fiveRows) selected fun rows given => by
      obtain rfl := Except.ok.inj given
      exact filled
  obtain rfl := List.append_cancel_left (sent.symm.trans same)
  rcases limits _ sql [] (.ok answer) List.mem_cons_self with ⟨-, given, -⟩ | limited
  · exact absurd given (by decide)
  · rw [dialect] at limited
    rw [connection] at sent
    exact ⟨by decide, counts, counted, selected, filled, sent, limited⟩

/-- A count of no rows. -/
def noRows : Script :=
  { responses := [⟨"COUNT(*)", .ofRows ["total_items"] [[.int 0]]⟩] }

/-- Page zero of no rows, counted from the end, asks for all rows there are. -/
theorem unlimited_of_fetch_zero :
    let paginator := backwards.onPage 0
    let sql := "SELECT * FROM items ORDER BY \"id\""
    0 < paginator.limit ∧
      ∃ counts counted, Session.selectStatement Script.server.logged
          (.select paginator.countSelect) (noting noRows) = (.ok counts, counted) ∧
        total counts = 0 ∧
        (fetch Script.server.logged paginator (noting noRows)).2.exchanges =
          counted.exchanges ++ [.executed 1 sql [] (.ok (.affected 1 none))] ∧
        ¬paginator.select.Limited .sqlite paginator.limit sql [] := by
  intro paginator sql
  let count := Answer.ofRows ["total_items"] [[.int 0]]
  have none : count.Counts 0 := ⟨[.int 0], 0, by decide +kernel⟩
  have answered : Script.server.execute 1 countText [] noRows =
      (.ok count, noRows.note ⟨1, countText, []⟩) := by decide +kernel
  obtain ⟨counts, counted, selected, sum, state, connection, dialect⟩ :=
    exists_counted none answered
  have done : Session.selectStatement Script.server.logged (.select paginator.countSelect)
      (noting noRows) = (.ok counts, counted) := selected
  have found : paginator.window? (total counts) = some ⟨0, 0⟩ := by
    rw [sum]
    decide
  have rendered : (paginator.select.setLimit 0 0).render = .ok sql := by decide +kernel
  have executed : Script.server.execute counted.connection sql [] counted.state.1 =
      (.ok (.affected 1 Option.none), (noRows.note ⟨1, countText, []⟩).note ⟨1, sql, []⟩) := by
    rw [connection, state]
    decide +kernel
  have sent := exchanges_fetch_of_answer done found dialect.symm rendered
    (by rw [dialect]; rfl) executed
  rw [connection] at sent
  refine ⟨by decide, counts, counted, done, sum, sent, ?_⟩
  rintro ⟨limit, offset?, other, front, lock, -, -, asks, bound, -, -⟩
  -- there are no parameters, so the text that is sent is the one that is rendered
  have unbound : paginator.select.params.bind .sqlite other = .ok (other, []) := rfl
  obtain ⟨rfl, -⟩ := Prod.mk.inj (Except.ok.inj (unbound.symm.trans bound))
  exact Select.not_asksFor_of_unlimited rfl rendered asks

end Paginator

end SqlClient
