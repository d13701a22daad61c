import SeriesFilter.Text.Blank
import SeriesFilter.Text.Numeral

/-!
# Domains of enumerated fields

A domain is a list of names; the position of a name is its ordinal. A literal gives the ordinal or
the name, with blanks around it and in any case of letters. A literal that is a small number never
counts as a name.
Spec guidance: `SPEC_FULL.md` §10.
-/

namespace SeriesFilter

/-- The closed value sets. -/
inductive Domain where
  | publicationStatus | ageRating | boolean
  deriving DecidableEq, Repr

namespace Domain

/-- The name of a domain. -/
def label : Domain → String
  | .publicationStatus => "PublicationStatus"
  | .ageRating => "AgeRating"
  | .boolean => "Boolean"

/-- The names of a domain in the order of their ordinals. `SPEC_FULL.md:151–156`. -/
def names : Domain → List String
  | .publicationStatus => ["OnGoing", "Hiatus", "Completed", "Cancelled", "Ended"]
  | .ageRating =>
    ["Unknown", "RatingPending", "EarlyChildhood", "Everyone", "G", "Everyone10Plus", "PG",
      "KidsToAdults", "Teen", "MaturePlus15", "Mature17Plus", "Mature", "R18Plus",
      "AdultsOnlyPlus18", "X18Plus"]
  | .boolean => ["False", "True"]

/-- The ordinal that a literal selects. `SPEC_FULL.md:151–152`. -/
def ordinal? (d : Domain) (literal : String) : Option Nat :=
  let literal := Text.trim literal
  match Text.naturalUpTo? 255 literal.toList with
  | some n => if n < d.names.length then some n else none
  | none => d.names.findIdx? fun name ↦ Text.sameName name literal

/-- The name with a given ordinal. -/
def name? (d : Domain) (ordinal : Nat) : Option String :=
  d.names[ordinal]?

/-- An ordinal selected by a literal belongs to the domain. -/
theorem ordinal?_lt {d : Domain} {literal : String} {n : Nat} (h : d.ordinal? literal = some n) :
    n < d.names.length := by
  simp only [ordinal?] at h
  split at h
  · split at h <;> simp_all
  · exact (List.findIdx?_eq_some_iff_findIdx_eq.1 h).1

end Domain

end SeriesFilter
