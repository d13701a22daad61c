import SeriesFilter.Calendar.Instant
import SeriesFilter.Decimal.Number
import SeriesFilter.Filter.Basic

/-!
# Entities that filters look at

A filter asks an entity for the value of a field, and an order asks it for a key. Anything with an
identity that answers these questions can be filtered.
Spec guidance: `SPEC_FULL.md` §14.
-/

namespace SeriesFilter

open Calendar Decimal

/-- The value of one field on one entity. `SPEC_FULL.md:241–242`. -/
inductive FieldValue where
  | text (s : String)
  /-- Several texts of which any may match. -/
  | texts (all : List String)
  /-- An ordinal in the field's domain. -/
  | enum (ordinal : Nat)
  | number (n : Number)
  /-- A date, or the knowledge that there is none. -/
  | date (t : Option Instant)
  /-- A span in nanoseconds. -/
  | duration (nanos : Int)
  | members (tokens : List String)
  deriving DecidableEq, Repr

/-- What an entity is ordered by. -/
inductive SortKey where
  | text (s : String)
  | number (n : Number)
  | date (t : Option Instant)
  deriving DecidableEq, Repr

/-- The order of texts, character by character. -/
def compareTexts (a b : String) : Ordering :=
  compare (a.toList.map Char.toNat) (b.toList.map Char.toNat)

/-- The order of dates: a missing date comes first. -/
def compareDates : Option Instant → Option Instant → Ordering
  | none, none => .eq
  | none, some _ => .lt
  | some _, none => .gt
  | some a, some b => a.compare b

/-- The order of keys. Keys of different shapes count as equal. -/
def SortKey.compare : SortKey → SortKey → Ordering
  | .text a, .text b => compareTexts a b
  | .number a, .number b => a.compare b
  | .date a, .date b => compareDates a b
  | _, _ => .eq

/-- What can be filtered and ordered. `SPEC_FULL.md:243–244`. -/
class Filterable (α : Type) where
  /-- The identity, which decides between entities with equal keys. -/
  id : α → Int
  /-- The value of a field, if the entity carries one. -/
  value? : α → Field → Option FieldValue
  /-- The key for an order. -/
  sortKey : α → SortField → SortKey

end SeriesFilter
