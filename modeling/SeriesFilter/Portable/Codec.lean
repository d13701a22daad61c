import SeriesFilter.Base64Url
import SeriesFilter.Portable.Resolve
import SeriesFilter.Text.Blank
import SeriesFilter.Text.Quoted

/-!
# Encoded filters

A filter as one string that can stand in an address: the version, a separator and the document in
base64. The separator is outside the base64 alphabet, so it stands in the string exactly once.
A blank string is the empty filter.
Spec guidance: `SPEC_FULL.md` §§4.2/7/12.
-/

namespace SeriesFilter.Portable

/-- The version of the format. `SPEC_FULL.md:187`. -/
def version : String := "sf2"

/-- Stands between version and payload. `SPEC_FULL.md:92,188–190`. -/
def separator : Char := '~'

/-- The longest string, in bytes, that is decoded unless another bound is given.
`SPEC_FULL.md:205–206`. -/
def defaultMaxLength : Nat := 64 * 1024

/-- The string that stores a filter. `SPEC_FULL.md:57–59,187–191`. -/
def encode (f : Filter) : String :=
  let document := (Document.ofFilter f).toJson.compact
  version ++ String.singleton separator ++
    String.ofList (Base64Url.encode document.toUTF8.toList)

/-- Why a string stores no filter. `SPEC_FULL.md:95,191–192,200–201`. -/
inductive DecodeError where
  | tooLong (length max : Nat)
  | missingSeparator
  | unsupportedVersion (version : String)
  | base64 (error : Base64Url.DecodeError)
  | payload (fault : Json.Fault)
  | combination (id : Int)
  deriving DecidableEq, Repr

/-- A few words on a payload that is no document. -/
def faultText : Json.Fault → String
  | .malformed => "not valid JSON"
  | .early => "unexpected end of JSON"
  | .mismatch => "JSON of an unexpected shape"

/-- The message about a string that stores no filter. `SPEC_FULL.md:95`. -/
def DecodeError.message : DecodeError → String
  | .tooLong length max => s!"Encoded filter is {length} bytes, the limit is {max}"
  | .missingSeparator => s!"Encoded filter is missing its '{separator}' separator"
  | .unsupportedVersion version =>
    s!"Unsupported encoded filter version: {Text.quoted version}"
  | .base64 error => s!"Encoded filter payload is not valid base64: {error.message}"
  | .payload fault => s!"Encoded filter payload is malformed: {faultText fault}"
  | .combination id => s!"Unknown filter combination id {id}"

/-- Version and payload of a string, parted at the first separator. `SPEC_FULL.md:92,187–190`. -/
def split? (s : List Char) : Option (List Char × List Char) :=
  match s.span (· != separator) with
  | (version, _ :: payload) => some (version, payload)
  | (_, []) => none

/-- Whether a string certainly stores no filter: it has no separator or another version.
`SPEC_FULL.md:58,192–194`. -/
def isErrored (s : String) : Bool :=
  let s := Text.trimChars s.toList
  if s.isEmpty then false
  else match split? s with
    | some (v, _) => v != version.toList
    | none => true

/-- The filter in a payload. `SPEC_FULL.md:187–188,195–201`. -/
def decodePayload (bytes : List UInt8) : Except DecodeError Decoded :=
  match (Json.Document.ofBytes bytes).read Document.reader with
  | .error fault => .error (.payload fault)
  | .ok document =>
    match (uint8? document.combination).bind Combination.ofId? with
    | none => .error (.combination document.combination)
    | some combination => .ok (document.resolve combination)

/-- The filter that a string of at most `max` bytes stores. `SPEC_FULL.md:56–58,191–206`. -/
def decodeUpTo (max : Nat) (s : String) : Except DecodeError Decoded :=
  let s := Text.trim s
  if s.isEmpty then .ok {}
  else if max < s.utf8ByteSize then .error (.tooLong s.utf8ByteSize max)
  else match split? s.toList with
    | none => .error .missingSeparator
    | some (v, payload) =>
      if v ≠ version.toList then .error (.unsupportedVersion (String.ofList v))
      else match Base64Url.decode (String.ofList payload).toUTF8.toList with
        | .error error => .error (.base64 error)
        | .ok bytes => decodePayload bytes

/-- The filter that a string stores, under the usual bound. `SPEC_FULL.md:191–194,205–206`. -/
def decode (s : String) : Except DecodeError Decoded :=
  decodeUpTo defaultMaxLength s

/-- The members that write a decoded filter: those of the filter, then what was lost.
`SPEC_FULL.md:277–278`. -/
def Decoded.toJson (d : Decoded) : Json.Value :=
  .record (d.filter.members ++
    [("isPartial", .bool d.isPartial), ("dropped", .list (d.losses.dropped.map Dropped.toJson))] ++
    listMember "removedGroups" (d.losses.removed.map fun path ↦ .text path.text) ++
    optionMember "ignoredSortField" (d.ignoredSort.map .integer))

end SeriesFilter.Portable
