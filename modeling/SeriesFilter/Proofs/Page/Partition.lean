import SeriesFilter.Page
import SeriesFilter.Proofs.Compile.Bounds
import SeriesFilter.Proofs.Series.Order
import SeriesFilter.Proofs.Sorting.Stable

/-!
# Pages part the results

The results of a plan are the passing rows in stable order, cut at the limit. A page shows those at
its positions, so that the pages one after the other show every result once, and no page among them
is empty.
-/

namespace SeriesFilter

/-! ### Windows of a list -/

section Windows

variable {size : Nat} (xs : List α)

private theorem window_eq (page : Nat) (hp : 1 ≤ page) :
    (xs.drop ((page - 1) * size)).take size =
      (xs.take (page * size)).drop ((page - 1) * size) := by
  have hs : page * size - (page - 1) * size = size := by
    rw [← Nat.sub_mul, Nat.sub_sub_self hp, Nat.one_mul]
  rw [List.drop_take, hs]

private theorem flatMap_windows (count : Nat) :
    (List.range count).flatMap (fun k ↦ (xs.drop (k * size)).take size) =
      xs.take (count * size) := by
  induction count with
  | zero => simp
  | succ count ih =>
    rw [List.range_succ, List.flatMap_append, ih, Nat.succ_mul, List.take_add]
    simp

end Windows

/-- A page has rows on it exactly when fewer rows fill the pages before it. -/
theorem Page.lt_pages_iff {page : Page α} (hs : 1 ≤ page.size) (k : Nat) :
    k < page.pages ↔ k * page.size < page.total := by
  rw [pages, Nat.max_eq_left hs, Nat.lt_iff_add_one_le, Nat.le_div_iff_mul_le hs,
    Nat.succ_mul]
  omega

/-! ### The results of a plan -/

/-- A limit lets through that many results, and zero lets all of them through. -/
theorem Limit.take_cap_ofCount (count : Nat) (xs : List α) :
    xs.take ((ofCount count).cap xs.length) = if count = 0 then xs else xs.take count := by
  rw [ofCount]
  by_cases h : count = 0
  · simp [h, cap]
  · simp [h, cap, List.take_eq_take_iff, Nat.min_comm]

namespace Plan

/-- The results of a plan are the passing rows in sorted order, cut at the limit. -/
theorem results_eq {limit : Nat} {p : Plan} (hp : p.limit = .ofCount limit) (rows : List Series) :
    p.results rows =
      let sorted := Sorting.sort p.sort.compare (rows.filter p.matches)
      if limit = 0 then sorted else sorted.take limit := by
  have hl := (Sorting.sort_perm p.sort.compare (rows.filter p.matches)).length_eq
  rw [results, hp, ← hl, Limit.take_cap_ofCount]

/-- There are no more results than rows. -/
theorem length_results_le (p : Plan) (rows : List Series) :
    (p.results rows).length ≤ rows.length := by
  have hs := (Sorting.sort_perm p.sort.compare (rows.filter p.matches)).length_eq
  have hf := List.length_filter_le p.matches rows
  rw [results, List.length_take]
  omega

/-- What the pages show of some results: the rows at the positions of each page. -/
structure Shows (p : Plan) (rows results : List Series) : Prop where
  /-- Only requests for page zero or for pages of no rows are refused. -/
  error_iff : ∀ r, (∃ e, p.run rows r = .error e) ↔ r.page = 0 ∨ r.size = 0
  /-- A page holds the rows from its first position up to that of the next page. -/
  run_eq : ∀ r, 1 ≤ r.page → 1 ≤ r.size → p.run rows r =
    .ok ⟨(results.take (r.page * r.size)).drop ((r.page - 1) * r.size), r.page, r.size,
      results.length⟩
  /-- The pages up to the last one show all results in order, and none of them is empty or too
  long; the pages after it are empty. -/
  pages : ∀ size, 1 ≤ size → ∃ pages : List (Page Series),
    (∀ k, (p.run rows ⟨k + 1, size⟩).map Page.pages = .ok pages.length) ∧
    (List.range pages.length).mapM (fun k ↦ p.run rows ⟨k + 1, size⟩) = .ok pages ∧
    pages.flatMap Page.items = results ∧
    (∀ page ∈ pages, page.items ≠ [] ∧ page.items.length ≤ size) ∧
    ∀ k, pages.length ≤ k → (p.run rows ⟨k + 1, size⟩).map Page.items = .ok []

variable {p : Plan} {rows : List Series}

private theorem run_valid (hr : rows.length ≤ maxCount) {r : PageRequest} (hp : 1 ≤ r.page)
    (hs : 1 ≤ r.size) :
    p.run rows r = .ok ⟨((p.results rows).drop ((r.page - 1) * r.size)).take r.size, r.page, r.size,
      (p.results rows).length⟩ := by
  have hv : r.isValid = true := by
    simp only [PageRequest.isValid, Bool.and_eq_true, bne_iff_ne]
    omega
  -- an offset that is not counted exactly lies behind all rows, as the exact one does
  have ho : (p.results rows).drop r.offset = (p.results rows).drop ((r.page - 1) * r.size) := by
    have hl := p.length_results_le rows
    rw [List.drop_eq_drop_iff, PageRequest.offset]
    omega
  rw [run, if_pos hv]
  dsimp only
  rw [ho]

/-- The pages of a plan show its results. -/
theorem shows_results (hr : rows.length ≤ maxCount) : p.Shows rows (p.results rows) where
  error_iff := by
    intro r
    by_cases hz : r.page = 0 ∨ r.size = 0
    · have hv : r.isValid = false := by
        simp only [PageRequest.isValid, Bool.and_eq_false_iff, bne_eq_false_iff_eq]
        exact hz
      simp [run, hv, hz]
    · have h := run_valid (p := p) hr (r := r) (by omega) (by omega)
      simp [h, hz]
  run_eq := by
    intro r hp hs
    rw [run_valid hr hp hs, window_eq _ _ hp]
  pages := by
    intro size hs
    let page (k : Nat) : Page Series :=
      ⟨((p.results rows).drop (k * size)).take size, k + 1, size, (p.results rows).length⟩
    have hrun (k : Nat) : p.run rows ⟨k + 1, size⟩ = .ok (page k) :=
      run_valid hr (Nat.le_add_left 1 k) hs
    -- all pages report the same number of pages
    obtain ⟨count, hcount⟩ : ∃ count, ∀ k, (page k).pages = count :=
      ⟨(page 0).pages, fun _ ↦ rfl⟩
    have hlt (k : Nat) : k < count ↔ k * size < (p.results rows).length := by
      rw [← hcount k]
      exact Page.lt_pages_iff hs k
    refine ⟨(List.range count).map page, ?_, ?_, ?_, ?_, ?_⟩
    · intro k
      simp [hrun, Except.map, hcount]
    · have hf : (fun k ↦ p.run rows ⟨k + 1, size⟩) = fun k ↦ pure (page k) := funext hrun
      rw [List.length_map, List.length_range, hf, List.mapM_pure]
      rfl
    · rw [List.flatMap_map, flatMap_windows]
      apply List.take_of_length_le
      exact Nat.le_of_not_lt fun h ↦ Nat.lt_irrefl count ((hlt count).mpr h)
    · intro shown hm
      obtain ⟨k, hk, rfl⟩ := List.mem_map.mp hm
      have hk := (hlt k).mp (List.mem_range.mp hk)
      constructor
      · apply List.ne_nil_of_length_pos
        simp only [page, List.length_take, List.length_drop]
        omega
      · exact List.length_take_le _ _
    · intro k hk
      rw [List.length_map, List.length_range] at hk
      have hk : (p.results rows).length ≤ k * size :=
        Nat.le_of_not_lt fun h ↦ Nat.not_lt.mpr hk ((hlt k).mpr h)
      simp [hrun, Except.map, page, List.drop_of_length_le hk]

/-- The plan of a filter shows its passing rows in their one stable order, cut at the limit of the
filter. There may be as many rows as can be counted; positions are exact however great they are. -/
theorem shows_stable_results {f : Filter} {settings : Settings} {now : Calendar.Instant}
    (hp : f.compile settings now = .ok p) (hr : rows.length ≤ maxCount) :
    ∃ sorted,
      (∀ ys, Sorting.IsStable p.sort.compare (rows.filter p.matches) ys ↔ ys = sorted) ∧
      p.Shows rows (if f.limit = 0 then sorted else sorted.take f.limit.toNat) := by
  obtain ⟨-, flat, tree, -, -, hplan⟩ := Compile.compile_eq_ok_iff.mp hp
  have hl : p.limit = .ofCount f.limit.toNat := by rw [hplan]
  refine ⟨_, fun ys ↦ Sorting.isStable_iff, ?_⟩
  have hs := shows_results (p := p) hr
  rw [results_eq hl] at hs
  have hz : f.limit = 0 ↔ f.limit.toNat = 0 := UInt32.toNat_inj.symm
  simpa only [hz] using hs

/-- A filter that asks for the two rows that were added last. -/
private def latestTwo : Filter where
  sort := some ⟨.createdDate, false⟩
  limit := 2

/-- Rows of which two tie, apart from their identities. -/
private def threeRows : List Series :=
  [{ id := 1, created := some ⟨5, 0⟩ }, { id := 3, created := some ⟨9, 0⟩ },
    { id := 2, created := some ⟨5, 0⟩ }]

/-- Three rows are not too many, and the pages show two of them. -/
theorem shows_stable_results_latestTwo :
    ∃ p, latestTwo.compile {} ⟨0, 0⟩ = .ok p ∧ threeRows.length ≤ maxCount ∧
      ∃ sorted,
        (∀ ys, Sorting.IsStable p.sort.compare (threeRows.filter p.matches) ys ↔ ys = sorted) ∧
        p.Shows threeRows (sorted.take 2) := by
  have hr : threeRows.length ≤ maxCount := by decide
  obtain ⟨p, hp⟩ : ∃ p, latestTwo.compile {} ⟨0, 0⟩ = .ok p := ⟨_, rfl⟩
  exact ⟨p, hp, hr, shows_stable_results hp hr⟩

end Plan

end SeriesFilter
