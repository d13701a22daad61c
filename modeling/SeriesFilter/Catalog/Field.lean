import SeriesFilter.Catalog.Domain
import SeriesFilter.Catalog.Role

/-!
# Filterable fields

Each field of a series has a number that never changes, a name for machines, a label for people,
a kind of value and the place of that value on a series. Enumerated fields name their domain,
person fields their role. The placeholder stands for a row that nobody has filled in yet; no
statement may use it.
Spec guidance: `SPEC_FULL.md` §§3/4.1/10.
-/

namespace SeriesFilter

/-- What kind of value a field holds; it decides how literals read and which operators apply. -/
inductive ValueKind where
  | text
  /-- One of a closed set of named values. -/
  | enum
  | number
  | date
  | duration
  /-- A set of related records, tested for membership. -/
  | collection
  deriving DecidableEq, Repr

/-- The name of a kind in reports. -/
def ValueKind.label : ValueKind → String
  | .text => "Text"
  | .enum => "Enum"
  | .number => "Number"
  | .date => "Date"
  | .duration => "Duration"
  | .collection => "EntityCollection"

/-- The fields, in the order in which they are listed. -/
inductive Field where
  | placeholder | summary | seriesName | path | filePath | publicationStatus | ageRating
  | wantToRead | userRating | readProgress | releaseYear | averageRating | readingDate
  | readTime | languages | tags | collectionTags | genres | libraries | formats | writers
  | penciller | inker | colorist | letterer | coverArtist | editor | publisher | characters
  | translators | imprint | team | location
  deriving DecidableEq, Repr

namespace Field

/-- All fields in listed order. -/
def all : List Field :=
  [.placeholder, .summary, .seriesName, .path, .filePath, .publicationStatus, .ageRating,
    .wantToRead, .userRating, .readProgress, .releaseYear, .averageRating, .readingDate,
    .readTime, .languages, .tags, .collectionTags, .genres, .libraries, .formats, .writers,
    .penciller, .inker, .colorist, .letterer, .coverArtist, .editor, .publisher, .characters,
    .translators, .imprint, .team, .location]

/-- Every field is listed. -/
theorem mem_all (f : Field) : f ∈ all := by
  cases f <;> decide

/-- The number that stands for a field in stored filters. `SPEC_FULL.md:132–139`. -/
def id : Field → Int
  | .placeholder => -1
  | .summary => 0
  | .seriesName => 1
  | .path => 24
  | .filePath => 25
  | .publicationStatus => 2
  | .ageRating => 4
  | .wantToRead => 26
  | .userRating => 5
  | .readProgress => 20
  | .releaseYear => 22
  | .averageRating => 28
  | .readingDate => 27
  | .readTime => 23
  | .languages => 3
  | .tags => 6
  | .collectionTags => 7
  | .genres => 18
  | .libraries => 19
  | .formats => 21
  | .writers => 17
  | .penciller => 16
  | .inker => 15
  | .colorist => 14
  | .letterer => 13
  | .coverArtist => 12
  | .editor => 11
  | .publisher => 10
  | .characters => 9
  | .translators => 8
  | .imprint => 29
  | .team => 30
  | .location => 31

/-- The field with a given number. -/
def ofId? (n : Int) : Option Field :=
  all.find? fun f ↦ f.id == n

/-- The name of a field in commands. -/
def name : Field → String
  | .placeholder => "none"
  | .summary => "summary"
  | .seriesName => "seriesName"
  | .path => "path"
  | .filePath => "filePath"
  | .publicationStatus => "publicationStatus"
  | .ageRating => "ageRating"
  | .wantToRead => "wantToRead"
  | .userRating => "userRating"
  | .readProgress => "readProgress"
  | .releaseYear => "releaseYear"
  | .averageRating => "averageRating"
  | .readingDate => "readingDate"
  | .readTime => "readTime"
  | .languages => "languages"
  | .tags => "tags"
  | .collectionTags => "collectionTags"
  | .genres => "genres"
  | .libraries => "libraries"
  | .formats => "formats"
  | .writers => "writers"
  | .penciller => "penciller"
  | .inker => "inker"
  | .colorist => "colorist"
  | .letterer => "letterer"
  | .coverArtist => "coverArtist"
  | .editor => "editor"
  | .publisher => "publisher"
  | .characters => "characters"
  | .translators => "translators"
  | .imprint => "imprint"
  | .team => "team"
  | .location => "location"

/-- The field with a given name, whatever the case of its letters. -/
def ofName? (s : String) : Option Field :=
  all.find? fun f ↦ Text.sameName f.name s

/-- The label of a field in messages. -/
def label : Field → String
  | .placeholder => "None"
  | .summary => "Summary"
  | .seriesName => "Series Name"
  | .path => "Path"
  | .filePath => "File Path"
  | .publicationStatus => "Publication Status"
  | .ageRating => "Age Rating"
  | .wantToRead => "Want To Read"
  | .userRating => "User Rating"
  | .readProgress => "Read Progress"
  | .releaseYear => "Release Year"
  | .averageRating => "Average Rating"
  | .readingDate => "Reading Date"
  | .readTime => "Read Time"
  | .languages => "Languages"
  | .tags => "Tags"
  | .collectionTags => "Collection Tags"
  | .genres => "Genres"
  | .libraries => "Libraries"
  | .formats => "Formats"
  | .writers => "Writers"
  | .penciller => "Penciller"
  | .inker => "Inker"
  | .colorist => "Colorist"
  | .letterer => "Letterer"
  | .coverArtist => "Cover Artist"
  | .editor => "Editor"
  | .publisher => "Publisher"
  | .characters => "Characters"
  | .translators => "Translators"
  | .imprint => "Imprint"
  | .team => "Team"
  | .location => "Location"

/-- The kind of value a field holds. `SPEC_FULL.md:28–29,157–161`. -/
def kind : Field → ValueKind
  | .placeholder | .summary | .seriesName | .path | .filePath => .text
  | .publicationStatus | .ageRating | .wantToRead => .enum
  | .userRating | .readProgress | .releaseYear | .averageRating => .number
  | .readingDate => .date
  | .readTime => .duration
  | _ => .collection

/-- Whether a statement may use the field at all. `SPEC_FULL.md:133,147`. -/
def isFilterable (f : Field) : Bool :=
  f != .placeholder

/-- The fields that statements may use, in listed order. -/
def filterable : List Field :=
  all.filter isFilterable

/-- The role whose people a field holds. `SPEC_FULL.md:147–150`. -/
def role? : Field → Option Role
  | .writers => some .writer
  | .penciller => some .penciller
  | .inker => some .inker
  | .colorist => some .colorist
  | .letterer => some .letterer
  | .coverArtist => some .coverArtist
  | .editor => some .editor
  | .publisher => some .publisher
  | .characters => some .character
  | .translators => some .translator
  | .imprint => some .imprint
  | .team => some .team
  | .location => some .location
  | _ => none

/-- The field that holds the people of a role. -/
def ofRole? (role : Role) : Option Field :=
  all.find? fun f ↦ f.role? == some role

/-- The values of an enumerated field. `SPEC_FULL.md:148–156`. -/
def domain? : Field → Option Domain
  | .publicationStatus => some .publicationStatus
  | .ageRating => some .ageRating
  | .wantToRead => some .boolean
  | _ => none

/-- Where a person field finds its people on a series. -/
def peoplePath (role : Role) : String :=
  "people[" ++ role.name ++ "]"

/-- Where the value of a field stands on a series. `SPEC_FULL.md:164–165`. -/
def place (f : Field) : String :=
  match f.role?, f with
  | some role, _ => peoplePath role
  | none, .seriesName => "name"
  | none, .path => "folderPath"
  | none, .filePath => "filePaths"
  | none, .readingDate => "lastRead"
  | none, .readTime => "avgHoursToRead"
  | none, .languages => "language"
  | none, .libraries => "library"
  | none, .formats => "format"
  | none, .placeholder => ""
  | none, f => f.name

end Field

end SeriesFilter
