import SeriesFilter.Sorting

/-!
# Sorting is stable

Under a comparison that is a total order up to ties, a list has exactly one stable order: its items
from the least to the greatest, those that tie in the order in which they stood. Sorting gives it,
by insertion and by merging alike.
-/

namespace SeriesFilter.Sorting

/-- One list is another in stable order. -/
structure IsStable (order : α → α → Ordering) (xs ys : List α) : Prop where
  /-- No item is lost or added. -/
  perm : ys.Perm xs
  /-- No item stands before a lesser one. -/
  sorted : ys.Pairwise fun a b ↦ order a b ≠ .gt
  /-- Items that tie keep their order. -/
  stable : ∀ a, ys.filter (order a · == .eq) = xs.filter (order a · == .eq)

variable {order : α → α → Ordering}

section Order

variable [Std.TransCmp order] {a b c : α}

private theorem ne_gt_trans (hab : order a b ≠ .gt) (hbc : order b c ≠ .gt) : order a c ≠ .gt := by
  rw [ne_eq, ← Ordering.isLE_iff_ne_gt] at *
  exact Std.TransCmp.isLE_trans hab hbc

private theorem ne_gt_of_ne_lt (h : order a b ≠ .lt) : order b a ≠ .gt := by
  intro hg
  exact h (Std.OrientedCmp.lt_of_gt hg)

private theorem eq_of_ne_gt (hab : order a b ≠ .gt) (hba : order b a ≠ .gt) : order a b = .eq := by
  cases h : order a b with
  | lt => exact absurd (Std.OrientedCmp.gt_of_lt h) hba
  | eq => rfl
  | gt => exact absurd h hab

end Order

/-! ### By insertion -/

/-- An item comes after those of its kind, so that each kind stays as if it were put in front of a
list that is kept in reverse. -/
theorem filter_insertDown [Std.TransCmp order] (a x : α) (xs : List α) :
    (insertDown order x xs).filter (order a · == .eq) = (x :: xs).filter (order a · == .eq) := by
  induction xs with
  | nil => rfl
  | cons y ys ih =>
    by_cases hxy : order x y = .lt
    · rw [insertDown, if_pos (by simp [hxy]), List.filter_cons, ih]
      by_cases hx : order a x = .eq
      · -- what is passed over is greater than `x`, hence not of its kind
        have hy : order a y ≠ .eq := by
          rw [Std.TransCmp.congr_left hx, hxy]
          decide
        simp [hx, hy]
      · simp [List.filter_cons, hx]
    · rw [insertDown, if_neg (by simp [hxy])]

private theorem pairwise_insertDown [Std.TransCmp order] (x : α) {xs : List α}
    (h : xs.Pairwise fun a b ↦ order b a ≠ .gt) :
    (insertDown order x xs).Pairwise fun a b ↦ order b a ≠ .gt := by
  induction xs with
  | nil => simp [insertDown]
  | cons y ys ih =>
    obtain ⟨hy, hys⟩ := List.pairwise_cons.mp h
    by_cases hxy : order x y = .lt
    · rw [insertDown, if_pos (by simp [hxy])]
      refine List.pairwise_cons.mpr ⟨?_, ih hys⟩
      intro z hz
      rcases List.mem_cons.mp ((insertDown_perm order x ys).mem_iff.mp hz) with rfl | hz
      · simp [hxy]
      · exact hy z hz
    · rw [insertDown, if_neg (by simp [hxy])]
      have hyx : order y x ≠ .gt := ne_gt_of_ne_lt hxy
      refine List.pairwise_cons.mpr ⟨?_, h⟩
      intro z hz
      rcases List.mem_cons.mp hz with rfl | hz
      · exact hyx
      · exact ne_gt_trans (hy z hz) hyx

/-- Sorting by insertion is stable. -/
theorem isStable_byInsertion [Std.TransCmp order] (xs : List α) :
    IsStable order xs (byInsertion order xs) where
  perm := byInsertion_perm order xs
  sorted := by
    suffices h : ∀ acc : List α, (acc.Pairwise fun a b ↦ order b a ≠ .gt) →
        (xs.foldl (fun acc x ↦ insertDown order x acc) acc).Pairwise fun a b ↦ order b a ≠ .gt by
      rw [byInsertion, List.pairwise_reverse]
      exact h [] .nil
    induction xs with
    | nil => exact fun _ h ↦ h
    | cons x xs ih => exact fun acc h ↦ ih _ (pairwise_insertDown x h)
  stable := by
    intro a
    suffices h : ∀ acc : List α,
        (xs.foldl (fun acc x ↦ insertDown order x acc) acc).reverse.filter (order a · == .eq) =
          acc.reverse.filter (order a · == .eq) ++ xs.filter (order a · == .eq) from h []
    induction xs with
    | nil => simp
    | cons x xs ih =>
      intro acc
      have hx : (insertDown order x acc).filter (order a · == .eq) =
          (x :: acc).filter (order a · == .eq) := filter_insertDown a x acc
      rw [List.foldl_cons, ih, List.filter_reverse, hx, ← List.filter_reverse, List.reverse_cons,
        List.filter_append, List.append_assoc, ← List.filter_append]
      rfl

/-! ### By merging -/

/-- Sorting by merging is stable. -/
theorem isStable_byMerging [Std.TransCmp order] (xs : List α) :
    IsStable order xs (byMerging order xs) := by
  have htrans : ∀ a b c : α, (order a b != .gt) = true → (order b c != .gt) = true →
      (order a c != .gt) = true := by
    intro a b c
    simpa using ne_gt_trans
  have htotal : ∀ a b : α, ((order a b != .gt) || (order b a != .gt)) = true := by
    intro a b
    by_cases h : order a b = .gt
    · simp [Std.OrientedCmp.lt_of_gt h]
    · simp [h]
  refine ⟨List.mergeSort_perm xs _, ?_, fun a ↦ ?_⟩
  · simpa [byMerging] using List.pairwise_mergeSort htrans htotal xs
  · -- the items of one kind are in order already, so they survive as a sublist, and none is lost
    have hkind : (xs.filter (order a · == .eq)).Pairwise fun b c ↦ (order b c != .gt) = true := by
      rw [List.pairwise_filter]
      refine List.pairwise_of_forall fun b c hb hc ↦ ?_
      have hbc : order a c = order b c := Std.TransCmp.congr_left (by simpa using hb)
      have hac : order a c = .eq := by simpa using hc
      simp [← hbc, hac]
    have hsub := (List.sublist_mergeSort htrans htotal hkind List.filter_sublist).filter
      (order a · == .eq)
    rw [List.filter_filter] at hsub
    simp only [Bool.and_self] at hsub
    exact (hsub.eq_of_length ((List.mergeSort_perm xs _).filter _).length_eq.symm).symm

/-- Sorting is stable. -/
theorem isStable_sort [Std.TransCmp order] (xs : List α) : IsStable order xs (sort order xs) := by
  rw [sort]
  split
  · exact isStable_byInsertion xs
  · exact isStable_byMerging xs

/-! ### There is one stable order -/

private theorem mem_iff_of_filter_eq [Std.ReflCmp order] {ys zs : List α}
    (h : ∀ a, ys.filter (order a · == .eq) = zs.filter (order a · == .eq)) (a : α) :
    a ∈ ys ↔ a ∈ zs := by
  have hm := congrArg (a ∈ ·) (h a)
  simpa [Std.ReflCmp.compare_self] using hm

/-- Sorted lists are equal when they hold the same items of each kind in the same order. -/
theorem eq_of_filter_eq [Std.TransCmp order] {ys zs : List α}
    (hy : ys.Pairwise fun a b ↦ order a b ≠ .gt) (hz : zs.Pairwise fun a b ↦ order a b ≠ .gt)
    (h : ∀ a, ys.filter (order a · == .eq) = zs.filter (order a · == .eq)) : ys = zs := by
  have hself : ∀ a, order a a = .eq := fun a ↦ Std.ReflCmp.compare_self
  have hmem := mem_iff_of_filter_eq h
  induction ys generalizing zs with
  | nil =>
    symm
    simpa [List.eq_nil_iff_forall_not_mem] using hmem
  | cons y ys ih =>
    cases zs with
    | nil => simpa using hmem y
    | cons z zs =>
      rw [List.pairwise_cons] at hy hz
      have hyz : order y z ≠ .gt := by
        rcases List.mem_cons.mp ((hmem z).mpr List.mem_cons_self) with rfl | hm
        · simp [hself]
        · exact hy.1 z hm
      have hzy : order z y ≠ .gt := by
        rcases List.mem_cons.mp ((hmem y).mp List.mem_cons_self) with rfl | hm
        · simp [hself]
        · exact hz.1 y hm
      -- the first items tie, and so each is the first of the same kind
      have he : y = z := by
        have hk := h y
        simp only [List.filter_cons, hself, eq_of_ne_gt hyz hzy, beq_self_eq_true, if_true] at hk
        exact (List.cons.inj hk).1
      subst he
      have ht : ∀ a, ys.filter (order a · == .eq) = zs.filter (order a · == .eq) := by
        intro a
        have hk := h a
        by_cases ha : order a y = .eq
        · simpa [List.filter_cons, ha] using hk
        · simpa [List.filter_cons, ha] using hk
      rw [ih hy.2 hz.2 ht (mem_iff_of_filter_eq ht)]

/-- The sorted list is the one stable order of a list. -/
theorem isStable_iff [Std.TransCmp order] {xs ys : List α} :
    IsStable order xs ys ↔ ys = sort order xs := by
  constructor
  · intro h
    have hs : IsStable order xs (sort order xs) := isStable_sort xs
    exact eq_of_filter_eq h.sorted hs.sorted fun a ↦ (h.stable a).trans (hs.stable a).symm
  · rintro rfl
    exact isStable_sort xs

/-- When no two items tie, the sorted list does not depend on the order of the items before. -/
theorem sort_eq_of_perm [Std.TransCmp order] {xs ys : List α} (h : ys.Perm xs)
    (hne : ∀ a ∈ xs, ∀ b ∈ xs, order a b = .eq → a = b) : sort order ys = sort order xs := by
  have hx : IsStable order xs (sort order xs) := isStable_sort xs
  have hy : IsStable order ys (sort order ys) := isStable_sort ys
  refine List.Perm.eq_of_pairwise ?_ hy.sorted hx.sorted (hy.perm.trans (h.trans hx.perm.symm))
  intro a b ha hb hab hba
  have ha : a ∈ xs := h.mem_iff.mp (hy.perm.mem_iff.mp ha)
  exact hne a ha b (hx.perm.mem_iff.mp hb) (eq_of_ne_gt hab hba)

end SeriesFilter.Sorting
