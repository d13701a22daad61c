import SeriesFilter.Json.Reader

/-!
# Roles of people

The role a person holds on a series. Series list their people by role, in the order given here.
-/

namespace SeriesFilter

/-- The roles, in the order in which a series lists them. -/
inductive Role where
  | writer | penciller | inker | colorist | letterer | coverArtist | editor | publisher
  | character | translator | imprint | team | location
  deriving DecidableEq, Repr

namespace Role

/-- All roles in order. -/
def all : List Role :=
  [.writer, .penciller, .inker, .colorist, .letterer, .coverArtist, .editor, .publisher,
    .character, .translator, .imprint, .team, .location]

/-- Every role is listed. -/
theorem mem_all (r : Role) : r ∈ all := by
  cases r <;> decide

/-- The name of a role. -/
def name : Role → String
  | .writer => "writer"
  | .penciller => "penciller"
  | .inker => "inker"
  | .colorist => "colorist"
  | .letterer => "letterer"
  | .coverArtist => "coverArtist"
  | .editor => "editor"
  | .publisher => "publisher"
  | .character => "character"
  | .translator => "translator"
  | .imprint => "imprint"
  | .team => "team"
  | .location => "location"

/-- The role with exactly this name. -/
def ofName? (s : String) : Option Role :=
  all.find? fun r ↦ r.name == s

/-- The position of a role in the order. -/
def rank (r : Role) : Nat :=
  all.idxOf r

/-- Reads a role by its name. -/
def reader : Json.Reader Role :=
  Json.Reader.name ofName?

end Role

end SeriesFilter
