import SeriesFilter.Proofs.Filter.Tree

/-!
# What a filter means

A filter is true or not once each of its statements is. The meaning is stated of any truth of
statements: the flat statements are joined by the combination, a group asks for all its statements
and `and` children or for some `or` child, and both parts must hold.
-/

namespace SeriesFilter

variable (p : Statement → Bool)

/-- Whether statements hold under a combination. No statements hold under either. -/
def Combination.joins : Combination → List Statement → Bool
  | _, [] => true
  | .and, ss => ss.all p
  | .or, ss => ss.any p

/-- All of some statements hold when each does. -/
theorem Combination.joins_and (ss : List Statement) : Combination.and.joins p ss = ss.all p := by
  cases ss <;> rfl

namespace Group

mutual

/-- Whether a group holds. -/
def holds : Group → Bool
  | ⟨statements, and, or⟩ => (statements.all p && allHold and) || anyHolds or

/-- Whether all of some groups hold. -/
def allHold : List Group → Bool
  | [] => true
  | g :: gs => holds g && allHold gs

/-- Whether any of some groups holds. -/
def anyHolds : List Group → Bool
  | [] => false
  | g :: gs => holds g || anyHolds gs

end

/-- Whether a group holds when a combination joins its own statements; the groups below it ask for
all of theirs. -/
def holdsUnder (combination : Combination) (g : Group) : Bool :=
  (combination.joins p g.statements && allHold p g.and) || anyHolds p g.or

/-- All of some groups hold when each does. -/
theorem allHold_eq_all (gs : List Group) : allHold p gs = gs.all (holds p) := by
  induction gs with
  | nil => rfl
  | cons g gs ih => rw [allHold, ih, List.all_cons]

/-- Any of some groups holds when one does. -/
theorem anyHolds_eq_any (gs : List Group) : anyHolds p gs = gs.any (holds p) := by
  induction gs with
  | nil => rfl
  | cons g gs ih => rw [anyHolds, ih, List.any_cons]

/-- A group holds when all its statements and all its `and` children do, or some `or` child. -/
theorem holds_iff {p : Statement → Bool} {g : Group} :
    g.holds p = true ↔
      ((∀ s ∈ g.statements, p s = true) ∧ ∀ child ∈ g.and, child.holds p = true) ∨
        ∃ child ∈ g.or, child.holds p = true := by
  obtain ⟨statements, and, or⟩ := g
  rw [holds, Bool.or_eq_true, Bool.and_eq_true, allHold_eq_all, anyHolds_eq_any, List.all_eq_true,
    List.all_eq_true, List.any_eq_true]

/-- Below the root the statements of a group are joined by `and`. -/
theorem holdsUnder_and (g : Group) : g.holdsUnder p .and = g.holds p := by
  obtain ⟨statements, and, or⟩ := g
  rw [holdsUnder, holds, Combination.joins_and]

end Group

namespace Filter

/-- Whether the flat statements of a filter hold. -/
def flatHolds (f : Filter) : Bool :=
  f.combination.joins p f.statements

/-- Whether the tree of a filter holds. No tree holds. -/
def treeHolds (f : Filter) : Bool :=
  match f.group with
  | none => true
  | some g => g.holds p

end Filter

end SeriesFilter
