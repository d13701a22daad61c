import SeriesFilter.Entity
import SeriesFilter.Portable.Codec
import SeriesFilter.Sorting
import SeriesFilter.Text.Lower

/-!
# Saved filters

A store keeps named filters in encoded form. Names are trimmed and differ by more than the case of
letters; identities are given out in order and never twice. Every kept filter can be decoded under
the usual bound.
Spec guidance: `SPEC_FULL.md` §§3/16.
-/

namespace SeriesFilter

open Portable

/-- A saved filter. `SPEC_FULL.md:48,260`. -/
structure SmartFilter where
  id : Int
  name : String
  encoded : String
  deriving DecidableEq, Repr

/-- The value that writes a saved filter. -/
def SmartFilter.toJson (f : SmartFilter) : Json.Value :=
  .record [("id", .integer f.id), ("name", .text f.name), ("encodedFilter", .text f.encoded)]

/-- Why the store refuses. -/
inductive StoreError where
  | duplicate (name : String)
  | notFound (id : Int)
  | undecodable (error : DecodeError)
  deriving DecidableEq, Repr

/-- The message about a refusal. -/
def StoreError.message : StoreError → String
  | .duplicate name => s!"A smart filter named {Text.quoted name} already exists"
  | .notFound id => s!"Smart filter not found: {id}"
  | .undecodable error => error.message

/-- A store: its filters in the order in which they were saved, and the identity given last. -/
structure Store where
  filters : List SmartFilter := []
  lastId : Int := 0
  deriving DecidableEq, Repr

namespace Store

/-- Saves a filter under a new name: the outcome, and the store after the call. The name is checked
before the filter. `SPEC_FULL.md:263–265`. -/
def create (s : Store) (name encoded : String) : Except StoreError SmartFilter × Store :=
  let name := Text.trim name
  if s.filters.any fun f ↦ Text.sameName f.name name then (.error (.duplicate name), s)
  else match decode encoded with
    | .error error => (.error (.undecodable error), s)
    | .ok _ =>
      let saved : SmartFilter := ⟨s.lastId + 1, name, encoded⟩
      (.ok saved, ⟨s.filters ++ [saved], s.lastId + 1⟩)

/-- The saved filter with some identity. -/
def get? (s : Store) (id : Int) : Option SmartFilter :=
  s.filters.find? fun f ↦ f.id == id

/-- The order of a listing: by name in lower case, then by identity. -/
def listOrder (a b : SmartFilter) : Ordering :=
  (compareTexts (Text.lower a.name) (Text.lower b.name)).then (compare a.id b.id)

/-- All saved filters in the order of a listing. -/
def list (s : Store) : List SmartFilter :=
  Sorting.sort listOrder s.filters

/-- Takes a filter out of the store: the outcome, and the store after the call.
`SPEC_FULL.md:48,263–264`. -/
def delete (s : Store) (id : Int) : Except StoreError SmartFilter × Store :=
  match s.get? id with
  | some f => (.ok f, { s with filters := s.filters.eraseP fun f ↦ f.id == id })
  | none => (.error (.notFound id), s)

end Store

end SeriesFilter
