import SeriesFilter.Plan
import SeriesFilter.Series

/-!
# The order of series

All series have keys of the same shape for a sort field, so that an order compares like with like.
Every order of series is total up to ties, in both directions, and only series of one identity tie.
-/

namespace SeriesFilter

open Calendar Decimal

/-! ### The orders of keys -/

/-- The order of texts is that of their code points. -/
instance : Std.TransCmp compareTexts :=
  inferInstanceAs (Std.TransCmp (compareOn fun s : String ↦ s.toList.map Char.toNat))

private theorem compare_map_toNat_eq_lt_iff {as bs : List Char} :
    compare (as.map Char.toNat) (bs.map Char.toNat) = .lt ↔ as < bs := by
  induction as generalizing bs with
  | nil => cases bs <;> simp
  | cons a as ih =>
    cases bs with
    | nil => simp
    | cons b bs =>
      rw [List.cons_lt_cons_iff, ← ih, Char.lt_def, ← Char.toNat_inj]
      simp only [List.map_cons, List.compare_cons_cons, Ordering.then_eq_lt, Nat.compare_eq_lt,
        Nat.compare_eq_eq]
      exact or_congr_left UInt32.lt_iff_toNat_lt.symm

/-- The order of texts puts the lesser text first. -/
theorem compareTexts_eq_lt_iff {a b : String} : compareTexts a b = .lt ↔ a < b := by
  rw [compareTexts, compare_map_toNat_eq_lt_iff, String.lt_iff]

/-- Only equal texts tie. -/
theorem compareTexts_eq_eq_iff {a b : String} : compareTexts a b = .eq ↔ a = b := by
  constructor
  · intro h
    have hm : a.toList.map Char.toNat = b.toList.map Char.toNat := Std.LawfulEqOrd.eq_of_compare h
    exact String.toList_inj.mp ((List.map_inj_right fun _ _ ↦ Char.toNat_inj.mp).mp hm)
  · rintro rfl
    exact Std.ReflCmp.compare_self

/-- The order of numbers is that of their ranks. -/
instance : Std.TransCmp Number.compare :=
  inferInstanceAs (Std.TransCmp (compareOn Number.rank))

/-- Instants are ordered by seconds, then by fractions. -/
instance : Std.TransCmp Instant.compare :=
  inferInstanceAs (Std.TransCmp (compareLex (compareOn Instant.seconds) (compareOn Instant.nanos)))

/-- A missing date comes before all others, which are ordered as instants. -/
instance : Std.TransCmp compareDates where
  eq_swap := by
    intro a b
    cases a with
    | none => cases b <;> rfl
    | some a =>
      cases b with
      | none => rfl
      | some b =>
        simp only [compareDates]
        exact Std.OrientedCmp.eq_swap
  isLE_trans := by
    intro a b c hab hbc
    cases a with
    | none => cases c <;> rfl
    | some a =>
      cases b with
      | none => contradiction
      | some b =>
        cases c with
        | none => contradiction
        | some c =>
          simp only [compareDates] at *
          exact Std.TransCmp.isLE_trans hab hbc

/-- Keys are ordered as well as their order is. -/
theorem transCmp_on (order : β → β → Ordering) [Std.TransCmp order] (key : α → β) :
    Std.TransCmp fun a b ↦ order (key a) (key b) where
  eq_swap := Std.OrientedCmp.eq_swap
  isLE_trans := Std.TransCmp.isLE_trans

/-- The keys of series for one field are of one shape, which is ordered totally. -/
instance Series.transCmp_sortKey (field : SortField) :
    Std.TransCmp fun a b : Series ↦ (a.sortKey field).compare (b.sortKey field) := by
  cases field with
  | sortName => exact transCmp_on compareTexts fun s : Series ↦ Text.lower (s.sortName.getD s.name)
  | createdDate => exact transCmp_on compareDates Series.created
  | lastModifiedDate => exact transCmp_on compareDates Series.lastModified
  | lastChapterAdded => exact transCmp_on compareDates Series.lastChapterAdded
  | timeToRead => exact transCmp_on Number.compare fun s : Series ↦ .ofInt s.avgHoursToRead
  | releaseYear =>
    exact transCmp_on Number.compare fun s : Series ↦ (s.releaseYear.map Number.ofInt).getD .zero
  | readProgress => exact transCmp_on Number.compare Series.readProgress
  | averageRating => exact transCmp_on Number.compare fun s : Series ↦ s.averageRating.getD .zero

/-! ### The order of a plan -/

namespace SortOptions

variable (s : SortOptions)

/-- The keys of series in the direction of an order. -/
private def directed (a b : Series) : Ordering :=
  let byKey := (a.sortKey s.field).compare (b.sortKey s.field)
  if s.ascending then byKey else byKey.swap

private instance : Std.TransCmp s.directed := by
  obtain ⟨field, ascending⟩ := s
  cases ascending with
  | true => exact Series.transCmp_sortKey field
  | false =>
    have h : directed ⟨field, false⟩ = fun a b ↦ (b.sortKey field).compare (a.sortKey field) := by
      funext a b
      exact ((Series.transCmp_sortKey field).eq_swap).symm
    rw [h]
    have := Series.transCmp_sortKey field
    exact Std.TransCmp.opposite

/-- Every order of series is total up to ties. -/
instance : Std.TransCmp (s.compare : Series → Series → Ordering) :=
  inferInstanceAs (Std.TransCmp (compareLex s.directed (compareOn Series.id)))

/-- Series tie only when they have the same identity. -/
theorem id_eq_of_compare {a b : Series} (h : s.compare a b = .eq) : a.id = b.id := by
  have hi := (Ordering.then_eq_eq.mp h).2
  exact Std.LawfulEqOrd.eq_of_compare hi

end SortOptions

end SeriesFilter
