import Mathlib.Data.List.Nodup
import SeriesFilter.Engine
import SeriesFilter.Proofs.Series.Order
import SeriesFilter.Proofs.Sorting.Stable

/-!
# Results do not depend on the order of the rows

Rows of different identities never tie, so that sorting brings them into one order, whichever order
they are kept in. The limit and the page then cut the same list.
-/

namespace SeriesFilter

open Calendar

/-- The results of a plan do not depend on the order of the rows. -/
theorem Plan.results_eq_of_perm {rows other : List Series} (h : other.Perm rows)
    (hid : (rows.map Series.id).Nodup) (p : Plan) : p.results other = p.results rows := by
  have hp : (other.filter p.matches).Perm (rows.filter p.matches) := h.filter _
  have hs : Sorting.sort p.sort.compare (other.filter p.matches) =
      Sorting.sort p.sort.compare (rows.filter p.matches) := by
    refine Sorting.sort_eq_of_perm hp fun a ha b hb hab ↦ ?_
    exact List.inj_on_of_nodup_map hid (List.mem_filter.mp ha).1 (List.mem_filter.mp hb).1
      (p.sort.id_eq_of_compare hab)
  rw [results, results, hs, hp.length_eq]

/-- Whatever is asked of rows of different identities, their order makes no difference: the same
request gives the same page or is refused for the same reason. -/
theorem query_eq_of_perm {rows other : List Series} (h : other.Perm rows)
    (hid : (rows.map Series.id).Nodup) :
    (∀ (p : Plan) (r : PageRequest), p.run other r = p.run rows r) ∧
    ∀ (e : Engine) (now : Instant) (f : Filter) (r : PageRequest),
      e.query now other f r = e.query now rows f r := by
  have hrun : ∀ (p : Plan) (r : PageRequest), p.run other r = p.run rows r := by
    intro p r
    rw [Plan.run, Plan.run, Plan.results_eq_of_perm h hid p]
  refine ⟨hrun, fun e now f r ↦ ?_⟩
  simp only [Engine.query, hrun]

/-- Two rows with the same names in the one order and in the other. -/
theorem query_eq_of_perm_swapped :
    let rows : List Series := [{ id := 1, name := "Same" }, { id := 2, name := "same" }]
    rows.reverse.Perm rows ∧ (rows.map Series.id).Nodup ∧
      ∀ (e : Engine) (now : Instant) (f : Filter) (r : PageRequest),
        e.query now rows.reverse f r = e.query now rows f r := by
  intro rows
  have hid : (rows.map Series.id).Nodup := by decide
  exact ⟨List.reverse_perm rows, hid, (query_eq_of_perm (List.reverse_perm rows) hid).2⟩

end SeriesFilter
