import SeriesFilter.Json.Reader
import SeriesFilter.Store

/-!
# Streams

A stream shows the results of a filter on a dashboard or in the side navigation. It refers to a
saved filter by identity, and then depends on it, or carries a copy of the encoded filter, and then
does not.
Spec guidance: `SPEC_FULL.md` §§3/16.
-/

namespace SeriesFilter

open Json Portable

/-- Where a stream is shown. -/
inductive StreamKind where
  | dashboard | sideNav
  deriving DecidableEq, Repr

/-- Where a stream has its filter from. `SPEC_FULL.md:48,260–262`. -/
inductive StreamSource where
  | saved (id : Int)
  | copy (encoded : String)
  deriving DecidableEq, Repr

/-- A stream. -/
structure Stream where
  id : Int
  name : String
  kind : StreamKind
  source : StreamSource
  deriving DecidableEq, Repr

/-- Why a stream has no filter. -/
inductive StreamError where
  | gone (id : Int)
  | undecodable (error : DecodeError)
  deriving DecidableEq, Repr

/-- The message about a stream without filter. -/
def StreamError.message : StreamError → String
  | .gone id => s!"smart filter {id} no longer exists"
  | .undecodable error => error.message

/-- The encoded filter that a source stands for at present. -/
def Store.encodedOf (s : Store) : StreamSource → Except StreamError String
  | .copy encoded => .ok encoded
  | .saved id =>
    match s.get? id with
    | some f => .ok f.encoded
    | none => .error (.gone id)

/-- The filter that a stream shows at present. `SPEC_FULL.md:48,266–269`. -/
def Store.resolve (s : Store) (stream : Stream) : Except StreamError Decoded :=
  match s.encodedOf stream.source with
  | .error error => .error error
  | .ok encoded =>
    match decode encoded with
    | .ok decoded => .ok decoded
    | .error error => .error (.undecodable error)

/-- Reads where a stream is shown. -/
def StreamKind.reader : Reader StreamKind :=
  Reader.name fun
    | "dashboard" => some .dashboard
    | "sideNav" => some .sideNav
    | _ => none

namespace StreamSource

/-- The names of the two sources. -/
inductive Name where
  | saved | copy
  deriving DecidableEq, Repr

/-- Reads a source: a record of one member that names it. -/
def reader : Reader StreamSource :=
  Reader.choice
    (fun
      | "smartFilterId" => some Name.saved
      | "encoded" => some Name.copy
      | _ => none)
    (fun _ ↦ .error .mismatch)
    (fun name depth t ↦
      match name with
      | .saved => (Reader.int64 depth t).map StreamSource.saved
      | .copy => (Reader.text depth t).map StreamSource.copy)

end StreamSource

namespace Stream

/-- A stream being read. -/
structure Draft where
  id : Option Int := none
  name : Option String := none
  kind : Option StreamKind := none
  source : Option StreamSource := none

/-- Takes one member into a stream being read. -/
def Draft.put (depth : Nat) (d : Draft) (key : String) (t : Tree) : Except Fault Draft :=
  match key with
  | "id" => do return { d with id := ← Reader.fill d.id (Reader.int64 depth) t }
  | "name" => do return { d with name := ← Reader.fill d.name (Reader.text depth) t }
  | "kind" => do return { d with kind := ← Reader.fill d.kind (StreamKind.reader depth) t }
  | "source" => do
    return { d with source := ← Reader.fill d.source (StreamSource.reader depth) t }
  | _ => do
    t.skip
    return d

/-- Reads a stream; all its keys are needed. -/
def reader : Reader Stream
  | 0, t => .error (Reader.tooDeep t)
  | depth + 1, t => do
    let d ← Reader.record ["id", "name", "kind", "source"] (Draft.put depth) {} t
    return ⟨← Reader.required d.id, ← Reader.required d.name, ← Reader.required d.kind,
      ← Reader.required d.source⟩

end Stream

end SeriesFilter
