import SeriesFilter.Filter.Location
import SeriesFilter.Proofs.Text.Numerals

/-!
# The text of a place

No two places are written alike. The text of a path is read step by step: the first letter after a
point tells an `and` child, an `or` child or the statements of the group, and an index ends at its
bracket.
-/

namespace SeriesFilter

/-- What stands before a mark, when the mark does not stand in it, is the same in equal texts. -/
private theorem append_cons_inj {c : Char} {xs ys rest more : List Char} (hx : c ∉ xs)
    (hy : c ∉ ys) (h : xs ++ c :: rest = ys ++ c :: more) : xs = ys ∧ rest = more := by
  obtain ⟨as, rfl, hs⟩ | ⟨as, rfl, hs⟩ := List.append_eq_append_iff.mp h
  · cases as with
    | nil => simpa using hs
    | cons a as =>
      rw [List.cons_append, List.cons.injEq] at hs
      simp [hs.1] at hy
  · cases as with
    | nil => simpa [eq_comm] using hs
    | cons a as =>
      rw [List.cons_append, List.cons.injEq] at hs
      simp [hs.1] at hx

/-- An index is read up to its bracket. -/
private theorem index_inj {i j : Nat} {rest more : List Char}
    (h : Nat.toDigits 10 i ++ ']' :: rest = Nat.toDigits 10 j ++ ']' :: more) :
    i = j ∧ rest = more := by
  have hb (n : Nat) : ']' ∉ Nat.toDigits 10 n := Text.notMem_toDigits rfl n
  obtain ⟨hi, hr⟩ := append_cons_inj (hb i) (hb j) h
  have hn := congrArg (fun ds ↦ Nat.ofDigitChars 10 ds 0) hi
  simp only [Nat.ofDigitChars_ten_toDigits] at hn
  exact ⟨hn, hr⟩

private theorem toList_bracketed (before : String) (i : Nat) :
    (before ++ toString i ++ "]").toList = before.toList ++ (Nat.toDigits 10 i ++ [']']) := by
  rw [String.toList_append, String.toList_append, Nat.toString_eq_repr, Nat.toList_repr,
    List.append_assoc]
  rfl

private theorem toList_and (i : Nat) :
    (Step.and i).text.toList = ".and[".toList ++ (Nat.toDigits 10 i ++ [']']) :=
  toList_bracketed ".and[" i

private theorem toList_or (i : Nat) :
    (Step.or i).text.toList = ".or[".toList ++ (Nat.toDigits 10 i ++ [']']) :=
  toList_bracketed ".or[" i

private theorem toList_flat (i : Nat) :
    (Location.flat i).text.toList = "statements[".toList ++ (Nat.toDigits 10 i ++ [']']) :=
  toList_bracketed "statements[" i

/-- What is written after the root of a tree: steps, then the index of a statement. -/
private def afterRoot (path : GroupPath) (i : Nat) : List Char :=
  path.flatMap (fun step ↦ step.text.toList) ++
    (".statements[".toList ++ (Nat.toDigits 10 i ++ [']']))

private theorem toList_inGroup (path : GroupPath) (i : Nat) :
    (Location.inGroup path i).text.toList = "group".toList ++ afterRoot path i := by
  have hj : (String.join (path.map Step.text)).toList =
      path.flatMap fun step ↦ step.text.toList := by
    induction path with
    | nil => rfl
    | cons step path ih => rw [List.map_cons, String.join_cons, String.toList_append, ih]; rfl
  have ht : (Location.inGroup path i).text = path.text ++ ".statements[" ++ toString i ++ "]" := rfl
  rw [ht, toList_bracketed, String.toList_append, GroupPath.text, String.toList_append, hj,
    afterRoot]
  simp only [List.append_assoc]

private theorem afterRoot_cons (step : Step) (path : GroupPath) (i : Nat) :
    afterRoot (step :: path) i = step.text.toList ++ afterRoot path i := by
  rw [afterRoot, List.flatMap_cons, List.append_assoc, afterRoot]

/-- A step is read up to its bracket. -/
private theorem step_inj {step other : Step} {rest more : List Char}
    (h : step.text.toList ++ rest = other.text.toList ++ more) : step = other ∧ rest = more := by
  cases step with
  | and i =>
    rw [toList_and] at h
    cases other with
    | and j =>
      rw [toList_and] at h
      obtain ⟨rfl, hr⟩ := index_inj (by simpa using h)
      exact ⟨rfl, hr⟩
    | or j =>
      rw [toList_or] at h
      cases h
  | or i =>
    rw [toList_or] at h
    cases other with
    | and j =>
      rw [toList_and] at h
      cases h
    | or j =>
      rw [toList_or] at h
      obtain ⟨rfl, hr⟩ := index_inj (by simpa using h)
      exact ⟨rfl, hr⟩

/-- The second letter tells whether a step or the index of a statement is written. -/
private theorem afterRoot_cons_ne_nil (step : Step) (path : GroupPath) (i j : Nat) :
    afterRoot (step :: path) i ≠ afterRoot [] j := by
  intro h
  rw [afterRoot_cons] at h
  cases step with
  | and k =>
    rw [toList_and] at h
    cases h
  | or k =>
    rw [toList_or] at h
    cases h

private theorem afterRoot_inj {path other : GroupPath} {i j : Nat}
    (h : afterRoot path i = afterRoot other j) : path = other ∧ i = j := by
  induction path generalizing other with
  | nil =>
    cases other with
    | nil =>
      obtain ⟨rfl, -⟩ := index_inj (List.append_cancel_left h)
      exact ⟨rfl, rfl⟩
    | cons step other => exact absurd h.symm (afterRoot_cons_ne_nil step other j i)
  | cons step path ih =>
    cases other with
    | nil => exact absurd h (afterRoot_cons_ne_nil step path i j)
    | cons next other =>
      rw [afterRoot_cons, afterRoot_cons] at h
      obtain ⟨rfl, hr⟩ := step_inj h
      obtain ⟨rfl, rfl⟩ := ih hr
      exact ⟨rfl, rfl⟩

/-- Places are written differently. -/
theorem Location.text_injective {place other : Location} (h : place.text = other.text) :
    place = other := by
  have hl := congrArg String.toList h
  cases place with
  | flat i =>
    rw [toList_flat] at hl
    cases other with
    | flat j =>
      rw [toList_flat] at hl
      obtain ⟨rfl, -⟩ := index_inj (List.append_cancel_left hl)
      rfl
    | inGroup path j =>
      rw [toList_inGroup] at hl
      cases hl
  | inGroup path i =>
    rw [toList_inGroup] at hl
    cases other with
    | flat j =>
      rw [toList_flat] at hl
      cases hl
    | inGroup other j =>
      rw [toList_inGroup] at hl
      obtain ⟨rfl, rfl⟩ := afterRoot_inj (List.append_cancel_left hl)
      rfl

end SeriesFilter
