import Mathlib.Logic.Function.Iterate
import SqlClient.Proofs.Paging

/-!
# Navigation between pages

A page tells which pages come before and after it. The page after it is always one of the pages
that there are; the page before it is one too, unless the page is two or more past the last one,
from where the way back leads through pages that do not exist.
-/

namespace SqlClient

/-- The pages that a page points at exist, except for the one before a page that is two or more past
the last one; among the pages that exist they are its neighbours. A result without rows counts as
one page. -/
structure Page.Navigates (page : Page) : Prop where
  previous_pos : 1 ≤ page.previous
  previous_le_iff : page.previous ≤ max 1 page.last ↔ page.current ≤ max 1 page.last + 1
  next_pos : 1 ≤ page.next
  next_le : page.next ≤ max 1 page.last
  neighbours : 1 ≤ page.current → page.current ≤ page.last →
    page.previous = max 1 (page.current - 1) ∧ page.next = min page.last (page.current + 1)

namespace Paginator

/-! ## Reading a page -/

section Fetch

variable {σ : Type} {server : Server σ} {paginator : Paginator} {session counted : Session σ}
  {counts : List Row}

theorem fetch_of_uncounted {error : SessionError}
    (failed : Session.selectStatement server (.select paginator.countSelect) session =
      (.error error, counted)) :
    fetch server paginator session = (.error error, counted) :=
  Session.bind_of_error failed

/-- A page past the last one is summed up without asking for rows. -/
theorem fetch_of_past
    (done : Session.selectStatement server (.select paginator.countSelect) session =
      (.ok counts, counted)) (past : paginator.window? (total counts) = none) :
    fetch server paginator session = (.ok (paginator.summary (total counts) []), counted) := by
  rw [fetch, Session.bind_of_ok done]
  simp only [past]
  rfl

/-- Any other page is summed up with the rows of its window. -/
theorem fetch_of_window {window : Window}
    (done : Session.selectStatement server (.select paginator.countSelect) session =
      (.ok counts, counted)) (found : paginator.window? (total counts) = some window) :
    fetch server paginator session =
      (((windowRows server paginator window counted).1.map
          (paginator.summary (total counts))), (windowRows server paginator window counted).2) := by
  rw [fetch, Session.bind_of_ok done]
  simp only [found]
  rw [run_bind]
  cases read : windowRows server paginator window counted with
  | mk result after => cases result <;> rfl

/-- A page that is read sums up the count of its rows. -/
theorem summary_of_fetch {page : Page} {after : Session σ}
    (fetched : fetch server paginator session = (.ok page, after)) :
    ∃ counts counted items,
      Session.selectStatement server (.select paginator.countSelect) session =
        (.ok counts, counted) ∧ page = paginator.summary (total counts) items := by
  cases done : Session.selectStatement server (.select paginator.countSelect) session with
  | mk result counted =>
    cases result with
    | error error =>
        rw [fetch_of_uncounted done] at fetched
        cases fetched
    | ok counts =>
        refine ⟨counts, counted, ?_⟩
        cases found : paginator.window? (total counts) with
        | none =>
            rw [fetch_of_past done found] at fetched
            cases fetched
            exact ⟨[], rfl, rfl⟩
        | some window =>
            rw [fetch_of_window done found] at fetched
            obtain ⟨read, -⟩ := Prod.mk.inj fetched
            obtain ⟨items, -, rfl⟩ := map_eq_ok.1 read
            exact ⟨items, rfl, rfl⟩

end Fetch

/-! ## One step and many -/

theorem navigates_summary (paginator : Paginator) (total : Nat) (items : List Row) :
    (paginator.summary total items).Navigates := by
  constructor <;> simp only [summary] <;> omega

@[simp] theorem page_onPage (paginator : Paginator) (page : Nat) :
    (paginator.onPage page).page = page := rfl

@[simp] theorem lastPage_onPage (paginator : Paginator) (page total : Nat) :
    (paginator.onPage page).lastPage total = paginator.lastPage total := rfl

@[simp] theorem onPage_onPage (paginator : Paginator) (page other : Nat) :
    (paginator.onPage page).onPage other = paginator.onPage other := rfl

/-- The paginator at the page after its page. -/
def forward (total : Nat) (paginator : Paginator) : Paginator :=
  paginator.onPage (paginator.summary total []).next

/-- The paginator at the page before its page. -/
def backward (total : Nat) (paginator : Paginator) : Paginator :=
  paginator.onPage (paginator.summary total []).previous

/-- Steps forward end at the last page. -/
theorem iterate_forward (paginator : Paginator) (total steps : Nat) :
    (forward total)^[steps + 1] paginator = paginator.onPage
      (max 1 (min (paginator.lastPage total) (max paginator.page 1 + (steps + 1)))) := by
  induction steps with
  | zero => simp [forward, summary, Nat.max_comm]
  | succ steps induction =>
      rw [Function.iterate_succ_apply', induction, forward, onPage_onPage]
      simp only [summary, page_onPage, lastPage_onPage]
      congr 1
      omega

/-- Steps backward end at the first page. -/
theorem iterate_backward (paginator : Paginator) (total steps : Nat) :
    (backward total)^[steps + 1] paginator =
      paginator.onPage (max 1 (max paginator.page 1 - (steps + 1))) := by
  induction steps with
  | zero => simp [backward, summary, Nat.max_comm]
  | succ steps induction =>
      rw [Function.iterate_succ_apply', induction, backward, onPage_onPage]
      simp only [summary, page_onPage]
      congr 1
      omega

/-- It takes as many steps back to a page that exists as the page is past the last one. -/
theorem iterate_backward_le_iff (paginator : Paginator) (total steps : Nat) :
    ((backward total)^[steps + 1] paginator).page ≤ max 1 (paginator.lastPage total) ↔
      max paginator.page 1 ≤ max 1 (paginator.lastPage total) + (steps + 1) := by
  rw [iterate_backward, page_onPage]
  omega

/-- Every page that is read from a server points at pages that exist, except for the page before one
that is two or more past the last one. Its place among them is told from its number and the count. -/
theorem navigates_of_fetch {σ : Type} (server : Server σ) (paginator : Paginator)
    (session : Session σ) {page : Page} {after : Session σ}
    (fetched : fetch server paginator session = (.ok page, after)) :
    page.Navigates ∧ page.current = max 1 paginator.page ∧
      ∃ counts counted, Session.selectStatement server (.select paginator.countSelect) session =
          (.ok counts, counted) ∧
        page.totalItems = total counts ∧ page.last = paginator.lastPage (total counts) ∧
        page.totalPages = page.last := by
  obtain ⟨counts, counted, items, done, rfl⟩ := summary_of_fetch fetched
  exact ⟨paginator.navigates_summary (total counts) items, Nat.max_comm _ _, counts, counted, done,
    rfl, rfl, rfl⟩

/-- A table with ten rows on a page. -/
def tens : Paginator :=
  ofSelect { Select.empty .postgres with sources := [.table (.raw "items")] }

/-- A session with a server that counts 25 rows. -/
def twentyFive : Session Script :=
  { settings := { driver := "pgsql" }, dialect := .postgres,
    state := { responses := [⟨"COUNT(*)", .ofRows ["total_items"] [[.int 25]]⟩] }, connection := 1,
    depth := 0, policy := .disabled, insertId? := none, journal? := none }

/-- A page past the three pages of 25 rows is summed up from the count. -/
theorem fetch_twentyFive {page : Nat} (past : 3 < page) :
    ∃ after, fetch Script.server (tens.onPage page) twentyFive =
      (.ok ((tens.onPage page).summary 25 []), after) := by
  let sql := "SELECT COUNT(*) AS total_items FROM items"
  let answer := Answer.ofRows ["total_items"] [[.int 25]]
  have rendered : tens.countSelect.render = .ok sql := by decide +kernel
  have executed : Script.server.execute 1 sql [] twentyFive.state =
      (.ok answer, twentyFive.state.note ⟨1, sql, []⟩) := by decide +kernel
  have counted : Session.selectStatement Script.server (.select (tens.onPage page).countSelect)
      twentyFive = _ := Session.selectStatement_of_answer rfl rendered rfl executed
  have ended : (tens.onPage page).window? 25 = none := by
    have last : tens.lastPage 25 = 3 := by decide
    rw [window?, page_onPage, lastPage_onPage, last, if_neg (Nat.not_le_of_lt past)]
  have counts : answer.Counts 25 := ⟨[.int 25], 25, by decide +kernel⟩
  have sum := total_of_counts counts
  rw [← sum] at ended ⊢
  exact ⟨_, fetch_of_past counted ended⟩

/-- The page behind the last one of 25 rows points back at the last one. -/
theorem navigates_of_fetch_behind :
    let page := (tens.onPage 4).summary 25 []
    ∃ after, fetch Script.server (tens.onPage 4) twentyFive = (.ok page, after) ∧
      page.Navigates ∧ page.previous = 3 ∧ page.next = 3 ∧ page.last = 3 := by
  intro page
  obtain ⟨after, fetched⟩ := fetch_twentyFive (Nat.lt_succ_self 3)
  exact ⟨after, fetched, (navigates_of_fetch Script.server (tens.onPage 4) twentyFive fetched).1,
    rfl, rfl, rfl⟩

/-- Page seven of 25 rows points back at page six, and there are three pages. -/
theorem previous_of_fetch_past :
    let page := (tens.onPage 7).summary 25 []
    ∃ after, fetch Script.server (tens.onPage 7) twentyFive = (.ok page, after) ∧
      page.last = 3 ∧ page.next = 3 ∧ page.previous = 6 ∧ ¬page.previous ≤ max 1 page.last := by
  intro page
  obtain ⟨after, fetched⟩ := fetch_twentyFive (show 3 < 7 by decide)
  exact ⟨after, fetched, rfl, rfl, rfl, by decide⟩

end Paginator

end SqlClient
