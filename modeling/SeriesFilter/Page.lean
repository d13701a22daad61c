import SeriesFilter.Plan
import SeriesFilter.Sorting

/-!
# Pages of results

Running a plan on rows keeps those that pass, sorts them, cuts them at the limit and shows one
page. Pages count from one.
Spec guidance: `SPEC_FULL.md` §15.
-/

namespace SeriesFilter

/-- A page that is asked for. -/
structure PageRequest where
  page : Nat := 1
  size : Nat := 30
  deriving DecidableEq, Repr

/-- A request for page zero or for pages of no rows. -/
structure InvalidPage where
  request : PageRequest
  deriving DecidableEq, Repr

/-- The message about an invalid request. -/
def InvalidPage.message (e : InvalidPage) : String :=
  s!"Execution error: invalid page request (page {e.request.page}, size {e.request.size})"

/-- Whether a request can be answered. -/
def PageRequest.isValid (r : PageRequest) : Bool :=
  r.page != 0 && r.size != 0

/-- The greatest number of rows that is counted. A greater one counts as this. -/
def maxCount : Nat := 0xFFFFFFFFFFFFFFFF

/-- The rows to pass over before those of the page. -/
def PageRequest.offset (r : PageRequest) : Nat :=
  min ((r.page - 1) * r.size) maxCount

/-- One page of results. -/
structure Page (α : Type) where
  items : List α
  page : Nat
  size : Nat
  /-- The results on all pages together. -/
  total : Nat
  deriving Repr

/-- How many pages the results fill. -/
def Page.pages (p : Page α) : Nat :=
  let size := max p.size 1
  (p.total + size - 1) / size

namespace Plan

variable [Filterable α]

/-- All results of a plan, before they are cut into pages. `SPEC_FULL.md:254–255`. -/
def results (p : Plan) (rows : List α) : List α :=
  let passing := rows.filter p.matches
  (Sorting.sort p.sort.compare passing).take (p.limit.cap passing.length)

/-- One page of the results of a plan. `SPEC_FULL.md:252–256`. -/
def run (p : Plan) (rows : List α) (r : PageRequest) : Except InvalidPage (Page α) :=
  if r.isValid then
    let results := p.results rows
    .ok ⟨(results.drop r.offset).take r.size, r.page, r.size, results.length⟩
  else .error ⟨r⟩

end Plan

end SeriesFilter
