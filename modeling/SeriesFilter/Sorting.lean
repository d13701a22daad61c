/-!
# Stable sorting

A list is sorted by a comparison so that items that compare as equal keep their order. Short lists
are sorted by insertion, longer ones by merging. When the comparison is a total order the two ways
agree; when it is not, the result of the first is still determined item by item.
-/

namespace SeriesFilter.Sorting

/-- Puts an item into a list that is sorted from the last to the first: after all items that it
precedes. -/
def insertDown (order : α → α → Ordering) (x : α) : List α → List α
  | [] => [x]
  | y :: ys => if order x y == .lt then y :: insertDown order x ys else x :: y :: ys

/-- Sorting by insertion, item after item. -/
def byInsertion (order : α → α → Ordering) (xs : List α) : List α :=
  (xs.foldl (fun sorted x ↦ insertDown order x sorted) []).reverse

/-- Sorting by merging. -/
def byMerging (order : α → α → Ordering) (xs : List α) : List α :=
  xs.mergeSort fun a b ↦ order a b != .gt

/-- The greatest length at which a list counts as short. -/
def shortLength : Nat := 20

/-- A list in sorted order. -/
def sort (order : α → α → Ordering) (xs : List α) : List α :=
  if xs.length ≤ shortLength then byInsertion order xs else byMerging order xs

/-- Insertion adds the item and keeps the others. -/
theorem insertDown_perm (order : α → α → Ordering) (x : α) (xs : List α) :
    (insertDown order x xs).Perm (x :: xs) := by
  induction xs with
  | nil => exact .refl _
  | cons y ys ih =>
    simp only [insertDown]
    split
    · exact (List.Perm.cons y ih).trans (.swap x y ys)
    · exact .refl _

/-- Sorting by insertion keeps the items. -/
theorem byInsertion_perm (order : α → α → Ordering) (xs : List α) :
    (byInsertion order xs).Perm xs := by
  suffices ∀ sorted : List α,
      (xs.foldl (fun sorted x ↦ insertDown order x sorted) sorted).Perm (xs ++ sorted) by
    simpa [byInsertion] using (List.reverse_perm _).trans (this [])
  induction xs with
  | nil => exact fun _ ↦ .refl _
  | cons x xs ih =>
    intro sorted
    exact (ih _).trans ((List.Perm.append_left xs (insertDown_perm order x sorted)).trans
      List.perm_middle)

/-- Sorting keeps the items. -/
theorem sort_perm (order : α → α → Ordering) (xs : List α) : (sort order xs).Perm xs := by
  unfold sort
  split
  · exact byInsertion_perm order xs
  · exact List.mergeSort_perm xs _

end SeriesFilter.Sorting
