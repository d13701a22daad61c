import SeriesFilter.Portable.Document

/-!
# Numbers that stand for something

Fields, operators, combinations and sort fields are looked up by their numbers, and a look-up
finds exactly the one whose number it is. All these numbers are small, so that a wide number that
is narrowed before it is looked up stands for what it stands for as it is, or for nothing.
-/

namespace SeriesFilter

open Portable

/-- Where each member of a list is found by its number, a look-up finds whose number it is. -/
private theorem find?_number {κ : Type} {all : List κ} {number : κ → Int}
    (h : ∀ k, all.find? (fun j ↦ number j == number k) = some k) {n : Int} {k : κ} :
    all.find? (fun j ↦ number j == n) = some k ↔ number k = n := by
  constructor
  · intro hf
    simpa using List.find?_some hf
  · rintro rfl
    exact h k

section LookUp

variable {κ : Type} {look : Int → Option κ} {number : κ → Int}
  (h : ∀ {n k}, look n = some k ↔ number k = n) {n : Int}
include h

/-- A look-up finds nothing when nothing has the number. -/
private theorem look_eq_none_iff : look n = none ↔ ∀ k, number k ≠ n := by
  rw [Option.eq_none_iff_forall_ne_some]
  exact forall_congr' fun k ↦ not_congr h

/-- A number outside a range that has all numbers stands for nothing. -/
private theorem narrow?_bind_look {least greatest : Int}
    (hk : ∀ k, least ≤ number k ∧ number k ≤ greatest) :
    (narrow? least greatest n).bind look = look n := by
  rw [narrow?]
  split
  · rfl
  next hn =>
    refine ((look_eq_none_iff h).mpr ?_).symm
    rintro k rfl
    exact hn (hk k)

end LookUp

namespace Field

/-- A look-up finds the field whose number it is. -/
theorem ofId?_eq_some_iff {n : Int} {f : Field} : ofId? n = some f ↔ f.id = n :=
  find?_number fun g ↦ by cases g <;> rfl

/-- The numbers of fields are small. -/
theorem id_bounds (f : Field) : -1 ≤ f.id ∧ f.id ≤ 31 := by
  cases f <;> decide

/-- A look-up finds nothing when no field has the number. -/
theorem ofId?_eq_none_iff {n : Int} : ofId? n = none ↔ ∀ f : Field, f.id ≠ n :=
  look_eq_none_iff ofId?_eq_some_iff

/-- A number that is too wide stands for no field. -/
theorem int32?_bind_ofId? (n : Int) : (int32? n).bind ofId? = ofId? n := by
  refine narrow?_bind_look ofId?_eq_some_iff fun f ↦ ?_
  have hk := f.id_bounds
  omega

end Field

namespace Comparison

/-- A look-up finds the operator whose number it is. -/
theorem ofId?_eq_some_iff {n : Int} {c : Comparison} : ofId? n = some c ↔ c.id = n :=
  find?_number fun d ↦ by cases d <;> rfl

/-- The numbers of operators are small. -/
theorem id_bounds (c : Comparison) : 0 ≤ c.id ∧ c.id ≤ 16 := by
  cases c <;> decide

/-- A look-up finds nothing when no operator has the number. -/
theorem ofId?_eq_none_iff {n : Int} : ofId? n = none ↔ ∀ c : Comparison, c.id ≠ n :=
  look_eq_none_iff ofId?_eq_some_iff

/-- A number that is too wide stands for no operator. -/
theorem int32?_bind_ofId? (n : Int) : (int32? n).bind ofId? = ofId? n := by
  refine narrow?_bind_look ofId?_eq_some_iff fun c ↦ ?_
  have hk := c.id_bounds
  omega

end Comparison

namespace Combination

/-- A look-up finds the combination whose number it is. -/
theorem ofId?_eq_some_iff {n : Int} {c : Combination} : ofId? n = some c ↔ c.id = n :=
  find?_number fun d ↦ by cases d <;> rfl

/-- The numbers of combinations are zero and one. -/
theorem id_bounds (c : Combination) : 0 ≤ c.id ∧ c.id ≤ 1 := by
  cases c <;> decide

/-- A look-up finds nothing when no combination has the number. -/
theorem ofId?_eq_none_iff {n : Int} : ofId? n = none ↔ ∀ c : Combination, c.id ≠ n :=
  look_eq_none_iff ofId?_eq_some_iff

/-- A number that is too wide stands for no combination. -/
theorem uint8?_bind_ofId? (n : Int) : (uint8? n).bind ofId? = ofId? n := by
  refine narrow?_bind_look ofId?_eq_some_iff fun c ↦ ?_
  have hk := c.id_bounds
  omega

end Combination

namespace SortField

/-- A look-up finds the sort field whose number it is. -/
theorem ofId?_eq_some_iff {n : Int} {f : SortField} : ofId? n = some f ↔ f.id = n :=
  find?_number fun g ↦ by cases g <;> rfl

/-- The numbers of sort fields are small. -/
theorem id_bounds (f : SortField) : 1 ≤ f.id ∧ f.id ≤ 8 := by
  cases f <;> decide

/-- A look-up finds nothing when no sort field has the number. -/
theorem ofId?_eq_none_iff {n : Int} : ofId? n = none ↔ ∀ f : SortField, f.id ≠ n :=
  look_eq_none_iff ofId?_eq_some_iff

/-- A number that is too wide stands for no sort field. -/
theorem uint8?_bind_ofId? (n : Int) : (uint8? n).bind ofId? = ofId? n := by
  refine narrow?_bind_look ofId?_eq_some_iff fun f ↦ ?_
  have hk := f.id_bounds
  omega

end SortField

end SeriesFilter
