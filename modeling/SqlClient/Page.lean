import SqlClient.Session.Query

/-!
# Pages

A selection read page by page. A count sizes the result; then a window is read by limit and offset.
In reverse order the pages are counted from the end of the result, and the rows of each page come
last first. Numbers of pages and rows are taken to stay below `2 ^ 64`, so that no product or sum of
them overflows.
-/

namespace SqlClient

/-- A window of a result. -/
structure Window where
  /-- The greatest number of rows; zero stands for all. -/
  limit : Nat
  /-- The number of rows left out first. -/
  offset : Nat
  deriving DecidableEq, Repr

/-- A page of a selection. -/
structure Paginator where
  select : Select
  /-- The number of rows on a page; zero puts all rows on one page. -/
  limit : Nat
  /-- The page, counted from one. -/
  page : Nat
  /-- The pages are counted from the end. -/
  reverse : Bool

/-- The rows of a page and its place among the pages. -/
structure Page where
  items : List Row
  current : Nat
  /-- The page before it, or the first page. -/
  previous : Nat
  /-- The page after it, or the last page. -/
  next : Nat
  /-- The last page. -/
  last : Nat
  totalPages : Nat
  /-- The number of rows on all pages. -/
  totalItems : Nat
  /-- The number of the first row, counted from one. -/
  firstItem : Nat
  /-- The number of the last row. -/
  lastItem : Nat
  /-- The number of rows on a page. -/
  limit : Nat
  deriving DecidableEq, Repr

namespace Paginator

/-- The first page of a selection, ten rows long. -/
def ofSelect (select : Select) : Paginator :=
  ⟨select, 10, 1, false⟩

/-- The selection that counts the rows of all pages. -/
def countSelect (paginator : Paginator) : Select :=
  ((paginator.select.setColumns ["COUNT(*) AS total_items"]).clearLimit).clearOrderBy

/-- The number that a count reports; negative numbers count as zero. -/
def total (rows : List Row) : Nat :=
  (rows.filterMap (·.int? "total_items")).foldl (fun sum count => sum + count.toInt.toNat) 0

def lastPage (paginator : Paginator) (total : Nat) : Nat :=
  if paginator.limit = 0 then 1 else (total + paginator.limit - 1) / paginator.limit

/-- The number of rows on the pages before the page. -/
def offset (paginator : Paginator) : Nat :=
  (paginator.page - 1) * paginator.limit

/-- The window of the page. In reverse order the last page may be short. -/
def window (paginator : Paginator) (total : Nat) : Window :=
  if paginator.reverse ∧ 0 < paginator.limit then
    if paginator.offset + paginator.limit ≤ total then
      ⟨paginator.limit, total - (paginator.offset + paginator.limit)⟩
    else ⟨total - paginator.offset, 0⟩
  else ⟨paginator.limit, paginator.offset⟩

/-- The window of the page, if the page is not past the last one. -/
def window? (paginator : Paginator) (total : Nat) : Option Window :=
  if paginator.page ≤ paginator.lastPage total then some (paginator.window total) else none

/-- The page of rows out of a result of a size. -/
def summary (paginator : Paginator) (total : Nat) (items : List Row) : Page :=
  let current := max paginator.page 1
  let last := paginator.lastPage total
  { items, current, last
    previous := max (current - 1) 1
    next := max (min last (current + 1)) 1
    totalPages := last
    totalItems := total
    firstItem := paginator.offset + 1
    lastItem := paginator.offset + items.length
    limit := paginator.limit }

variable {σ : Type}

/-- The rows of a window, in the order of the pages. -/
def windowRows (server : Server σ) (paginator : Paginator) (window : Window) :
    Session.Action σ (List Row) := do
  let rows ← Session.selectStatement server
    (.select (paginator.select.setLimit window.limit window.offset))
  return if paginator.reverse then rows.reverse else rows

/-- The page, read from a server. -/
def fetch (server : Server σ) (paginator : Paginator) : Session.Action σ Page := do
  let counts ← Session.selectStatement server (.select paginator.countSelect)
  let total := total counts
  let items ← match paginator.window? total with
    | some window => windowRows server paginator window
    | none => pure []
  return paginator.summary total items

end Paginator

end SqlClient
