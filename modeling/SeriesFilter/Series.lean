import SeriesFilter.Calendar.Written
import SeriesFilter.Entity
import SeriesFilter.Json.Value
import SeriesFilter.Text.Lower

/-!
# Series

A series as the catalogue exports it. Enumerated fields hold names or ordinals as text, collection
fields hold the texts of their members, people are listed by role. Every key of a series may be
missing in JSON; writing gives all keys.
-/

namespace SeriesFilter

open Calendar Decimal Json

/-- A series. -/
structure Series where
  id : Int := 0
  name : String := ""
  originalName : Option String := none
  localizedName : Option String := none
  sortName : Option String := none
  summary : String := ""
  publicationStatus : String := ""
  ageRating : String := ""
  language : String := ""
  library : String := ""
  format : String := ""
  wantToRead : Bool := false
  userRating : Option Number := none
  averageRating : Option Number := none
  /-- How much has been read, in hundredths of the whole. -/
  readProgress : Number := .zero
  releaseYear : Option Int := none
  avgHoursToRead : Int := 0
  folderPath : String := ""
  filePaths : List String := []
  tags : List String := []
  collectionTags : List String := []
  genres : List String := []
  /-- The people of each role that is given, in the order of roles. -/
  people : List (Role × List String) := []
  lastRead : Option Instant := none
  created : Option Instant := none
  lastModified : Option Instant := none
  lastChapterAdded : Option Instant := none
  deriving DecidableEq, Repr

namespace Series

/-- All names of a series: its name, and the others unless they are empty. -/
def names (s : Series) : List String :=
  let others := [s.originalName, s.localizedName, s.sortName].filterMap fun name ↦ name
  s.name :: others.filter (· != "")

/-- The people of a role. -/
def peopleOf (s : Series) (role : Role) : List String :=
  (s.people.lookup role).getD []

/-- A collection of one member, or of none when the text is empty. -/
def singleMember (token : String) : List String :=
  if token = "" then [] else [token]

/-- The ordinal that a text selects in the domain of a field. -/
def ordinalOf (field : Field) (text : String) : Option FieldValue :=
  (field.domain?.bind fun domain ↦ domain.ordinal? text).map .enum

/-- The value of a field on a series. -/
def value? (s : Series) (field : Field) : Option FieldValue :=
  match field.role?, field with
  | some role, _ => some (.members (s.peopleOf role))
  | none, .summary => some (.text s.summary)
  | none, .seriesName => some (.texts s.names)
  | none, .path => some (.text s.folderPath)
  | none, .filePath => some (.texts s.filePaths)
  | none, .publicationStatus => ordinalOf field s.publicationStatus
  | none, .ageRating => ordinalOf field s.ageRating
  | none, .wantToRead => some (.enum s.wantToRead.toNat)
  | none, .userRating => s.userRating.map .number
  | none, .averageRating => s.averageRating.map .number
  | none, .readProgress => some (.number s.readProgress)
  | none, .releaseYear => s.releaseYear.map fun year ↦ .number (.ofInt year)
  | none, .readTime =>
    (span? (3600 * s.avgHoursToRead)).map fun seconds ↦ .duration (seconds * secondParts)
  | none, .readingDate => some (.date s.lastRead)
  | none, .languages => some (.members (singleMember s.language))
  | none, .libraries => some (.members (singleMember s.library))
  | none, .formats => some (.members (singleMember s.format))
  | none, .tags => some (.members s.tags)
  | none, .collectionTags => some (.members s.collectionTags)
  | none, .genres => some (.members s.genres)
  | none, _ => none

/-- The key of a series for an order. -/
def sortKey (s : Series) : SortField → SortKey
  | .sortName => .text (Text.lower (s.sortName.getD s.name))
  | .createdDate => .date s.created
  | .lastModifiedDate => .date s.lastModified
  | .lastChapterAdded => .date s.lastChapterAdded
  | .timeToRead => .number (.ofInt s.avgHoursToRead)
  | .releaseYear => .number ((s.releaseYear.map .ofInt).getD .zero)
  | .readProgress => .number s.readProgress
  | .averageRating => .number (s.averageRating.getD .zero)

instance : Filterable Series := ⟨Series.id, value?, sortKey⟩

/-- The people of a role put among those of the others, in the place of any given before. -/
def insertPeople (role : Role) (names : List String) :
    List (Role × List String) → List (Role × List String)
  | [] => [(role, names)]
  | (other, theirs) :: rest =>
    if role = other then (role, names) :: rest
    else if role.rank < other.rank then (role, names) :: (other, theirs) :: rest
    else (other, theirs) :: insertPeople role names rest

/-- The value that writes people by role. -/
def peopleToJson (people : List (Role × List String)) : Value :=
  .record (people.map fun (role, names) ↦ (role.name, .texts names))

/-- The members that write a series. -/
def toJson (s : Series) : Value :=
  let text? := Value.ofOption Value.text
  let number? := Value.ofOption Value.real
  let date? := Value.ofOption fun t : Instant ↦ .text t.text
  .record [("id", .integer s.id), ("name", .text s.name), ("originalName", text? s.originalName),
    ("localizedName", text? s.localizedName), ("sortName", text? s.sortName),
    ("summary", .text s.summary), ("publicationStatus", .text s.publicationStatus),
    ("ageRating", .text s.ageRating), ("language", .text s.language),
    ("library", .text s.library), ("format", .text s.format), ("wantToRead", .bool s.wantToRead),
    ("userRating", number? s.userRating), ("averageRating", number? s.averageRating),
    ("readProgress", .real s.readProgress),
    ("releaseYear", Value.ofOption .integer s.releaseYear),
    ("avgHoursToRead", .integer s.avgHoursToRead), ("folderPath", .text s.folderPath),
    ("filePaths", .texts s.filePaths), ("tags", .texts s.tags),
    ("collectionTags", .texts s.collectionTags), ("genres", .texts s.genres),
    ("people", peopleToJson s.people), ("lastRead", date? s.lastRead),
    ("created", date? s.created), ("lastModified", date? s.lastModified),
    ("lastChapterAdded", date? s.lastChapterAdded)]

/-- Reads an instant in the looser form. -/
def instantReader : Reader Instant :=
  Reader.refine Reader.text fun s ↦ (looseInstantOfText s.toList).toOption

/-- Reads a list of texts. -/
def textsReader : Reader (List String) :=
  Reader.list Reader.text

/-- Reads people by role, member by member. A role given twice keeps the later list. -/
def readPeople (depth : Nat) (people : List (Role × List String)) :
    List (Tree × Tree) → Except Fault (List (Role × List String))
  | [] => .ok people
  | (key, value) :: rest => do
    let role ← match key with
      | .text _ => Role.reader depth key
      | key => key.key.bind fun _ ↦ .error .malformed
    let names ← textsReader depth value
    readPeople depth (insertPeople role names people) rest

/-- Reads people by role. -/
def peopleReader : Reader (List (Role × List String))
  | 0, t => .error (Reader.tooDeep t)
  | depth + 1, t =>
    match t with
    | .object members tail => do
      let people ← readPeople depth [] members
      Tree.closing tail
      return people
    | t => .error t.fault

/-- A series being read. -/
structure Draft where
  id : Option Int := none
  name : Option String := none
  originalName : Option (Option String) := none
  localizedName : Option (Option String) := none
  sortName : Option (Option String) := none
  summary : Option String := none
  publicationStatus : Option String := none
  ageRating : Option String := none
  language : Option String := none
  library : Option String := none
  format : Option String := none
  wantToRead : Option Bool := none
  userRating : Option (Option Number) := none
  averageRating : Option (Option Number) := none
  readProgress : Option Number := none
  releaseYear : Option (Option Int) := none
  avgHoursToRead : Option Int := none
  folderPath : Option String := none
  filePaths : Option (List String) := none
  tags : Option (List String) := none
  collectionTags : Option (List String) := none
  genres : Option (List String) := none
  people : Option (List (Role × List String)) := none
  lastRead : Option (Option Instant) := none
  created : Option (Option Instant) := none
  lastModified : Option (Option Instant) := none
  lastChapterAdded : Option (Option Instant) := none

/-- The keys of a series in order. -/
def keys : List String :=
  ["id", "name", "originalName", "localizedName", "sortName", "summary", "publicationStatus",
    "ageRating", "language", "library", "format", "wantToRead", "userRating", "averageRating",
    "readProgress", "releaseYear", "avgHoursToRead", "folderPath", "filePaths", "tags",
    "collectionTags", "genres", "people", "lastRead", "created", "lastModified",
    "lastChapterAdded"]

/-- Takes one member into a series being read. -/
def Draft.put (depth : Nat) (d : Draft) (key : String) (t : Tree) : Except Fault Draft :=
  let text (slot : Option String) := Reader.fill slot (Reader.text depth) t
  let text? (slot : Option (Option String)) :=
    Reader.fill slot (Reader.optional Reader.text depth) t
  let number? (slot : Option (Option Number)) :=
    Reader.fill slot (Reader.optional Reader.number depth) t
  let texts (slot : Option (List String)) := Reader.fill slot (textsReader depth) t
  let date? (slot : Option (Option Instant)) :=
    Reader.fill slot (Reader.optional instantReader depth) t
  match key with
  | "id" => do return { d with id := ← Reader.fill d.id (Reader.int64 depth) t }
  | "name" => do return { d with name := ← text d.name }
  | "originalName" => do return { d with originalName := ← text? d.originalName }
  | "localizedName" => do return { d with localizedName := ← text? d.localizedName }
  | "sortName" => do return { d with sortName := ← text? d.sortName }
  | "summary" => do return { d with summary := ← text d.summary }
  | "publicationStatus" => do return { d with publicationStatus := ← text d.publicationStatus }
  | "ageRating" => do return { d with ageRating := ← text d.ageRating }
  | "language" => do return { d with language := ← text d.language }
  | "library" => do return { d with library := ← text d.library }
  | "format" => do return { d with format := ← text d.format }
  | "wantToRead" => do
    return { d with wantToRead := ← Reader.fill d.wantToRead (Reader.bool depth) t }
  | "userRating" => do return { d with userRating := ← number? d.userRating }
  | "averageRating" => do return { d with averageRating := ← number? d.averageRating }
  | "readProgress" => do
    return { d with readProgress := ← Reader.fill d.readProgress (Reader.number depth) t }
  | "releaseYear" => do
    return { d with
      releaseYear := ← Reader.fill d.releaseYear (Reader.optional Reader.int32 depth) t }
  | "avgHoursToRead" => do
    return { d with avgHoursToRead := ← Reader.fill d.avgHoursToRead (Reader.int64 depth) t }
  | "folderPath" => do return { d with folderPath := ← text d.folderPath }
  | "filePaths" => do return { d with filePaths := ← texts d.filePaths }
  | "tags" => do return { d with tags := ← texts d.tags }
  | "collectionTags" => do return { d with collectionTags := ← texts d.collectionTags }
  | "genres" => do return { d with genres := ← texts d.genres }
  | "people" => do return { d with people := ← Reader.fill d.people (peopleReader depth) t }
  | "lastRead" => do return { d with lastRead := ← date? d.lastRead }
  | "created" => do return { d with created := ← date? d.created }
  | "lastModified" => do return { d with lastModified := ← date? d.lastModified }
  | "lastChapterAdded" => do return { d with lastChapterAdded := ← date? d.lastChapterAdded }
  | _ => do
    t.skip
    return d

/-- Reads a series. -/
def reader : Reader Series
  | 0, t => .error (Reader.tooDeep t)
  | depth + 1, t => do
    let d ← Reader.record keys (Draft.put depth) {} t
    return {
      id := d.id.getD 0
      name := d.name.getD ""
      originalName := d.originalName.join
      localizedName := d.localizedName.join
      sortName := d.sortName.join
      summary := d.summary.getD ""
      publicationStatus := d.publicationStatus.getD ""
      ageRating := d.ageRating.getD ""
      language := d.language.getD ""
      library := d.library.getD ""
      format := d.format.getD ""
      wantToRead := d.wantToRead.getD false
      userRating := d.userRating.join
      averageRating := d.averageRating.join
      readProgress := d.readProgress.getD .zero
      releaseYear := d.releaseYear.join
      avgHoursToRead := d.avgHoursToRead.getD 0
      folderPath := d.folderPath.getD ""
      filePaths := d.filePaths.getD []
      tags := d.tags.getD []
      collectionTags := d.collectionTags.getD []
      genres := d.genres.getD []
      people := d.people.getD []
      lastRead := d.lastRead.join
      created := d.created.join
      lastModified := d.lastModified.join
      lastChapterAdded := d.lastChapterAdded.join }

/-- Reads a list of series. -/
def listReader : Reader (List Series) :=
  Reader.list reader

end Series

end SeriesFilter
