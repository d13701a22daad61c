import SeriesFilter.Compile
import SeriesFilter.Page
import SeriesFilter.Stream

/-!
# The engine

The operations that interfaces use, over a store and the settings. A filter is saved only if it has
a plan; a saved filter is checked once more by the store, under the usual bound on its length.
Spec guidance: `SPEC_FULL.md` §17.
-/

namespace SeriesFilter

open Calendar Portable

/-- Everything that an operation can report. -/
inductive Error where
  | decode (error : DecodeError)
  | compile (error : CompileError)
  | store (error : StoreError)
  | page (error : InvalidPage)
  deriving DecidableEq, Repr

/-- The message of a report. -/
def Error.message : Error → String
  | .decode error => error.message
  | .compile error => error.message
  | .store error => error.message
  | .page error => error.message

/-- A statement as a form posts it, its numbers not yet looked up. -/
structure RawStatement where
  field : Int
  comparison : Int
  value : String
  deriving DecidableEq, Repr

/-- A number in a posted statement that stands for nothing, with the place of the statement. -/
inductive RawStatementError where
  | unknownField (id : Int) (location : String)
  | unknownComparison (id : Int) (location : String)
  deriving DecidableEq, Repr

/-- The message about a posted statement. -/
def RawStatementError.message : RawStatementError → String
  | .unknownField id location => s!"Unknown field id {id} (at {location})"
  | .unknownComparison id location => s!"Unknown operator id {id} (at {location})"

namespace RawStatement

open Json

/-- A posted statement being read. -/
structure Draft where
  field : Option Int := none
  comparison : Option Int := none
  value : Option String := none

/-- Takes one member into a posted statement being read. -/
def Draft.put (depth : Nat) (d : Draft) (key : String) (t : Tree) : Except Fault Draft :=
  match key with
  | "field" => do return { d with field := ← Reader.fill d.field (Reader.int64 depth) t }
  | "comparison" => do
    return { d with comparison := ← Reader.fill d.comparison (Reader.int64 depth) t }
  | "value" => do return { d with value := ← Reader.fill d.value (Reader.text depth) t }
  | _ => do
    t.skip
    return d

/-- Reads a posted statement; the literal may be missing. -/
def reader : Reader RawStatement
  | 0, t => .error (Reader.tooDeep t)
  | depth + 1, t => do
    let d ← Reader.record ["field", "comparison", "value"] (Draft.put depth) {} t
    return ⟨← Reader.required d.field, ← Reader.required d.comparison, d.value.getD ""⟩

/-- The statement that a posted one means; `location` names it in a report.
`SPEC_FULL.md:279–281`. -/
def resolve (r : RawStatement) (location : String) : Except RawStatementError Statement :=
  match (int32? r.field).bind Field.ofId?, (int32? r.comparison).bind Comparison.ofId? with
  | none, _ => .error (.unknownField r.field location)
  | some _, none => .error (.unknownComparison r.comparison location)
  | some field, some comparison => .ok ⟨field, comparison, r.value⟩

end RawStatement

/-- The engine: saved filters and settings. -/
structure Engine where
  store : Store := {}
  settings : Settings := {}
  deriving DecidableEq, Repr

namespace Engine

/-- Decodes a filter under the bound of the settings. `SPEC_FULL.md:274–275`. -/
def decode (e : Engine) (encoded : String) : Except Error Decoded :=
  (decodeUpTo e.settings.maxEncodedLength encoded).mapError .decode

/-- The plan of a filter at some time. `SPEC_FULL.md:276–277`. -/
def validate (e : Engine) (now : Instant) (f : Filter) : Except Error Plan :=
  (f.compile e.settings now).mapError .compile

/-- One page of what a filter finds among rows. `SPEC_FULL.md:277`. -/
def query [Filterable α] (e : Engine) (now : Instant) (rows : List α) (f : Filter)
    (r : PageRequest) : Except Error (Page α) := do
  let plan ← e.validate now f
  (plan.run rows r).mapError .page

/-- Saves a filter under a name: the outcome, and the engine after the call.
`SPEC_FULL.md:282–283`. -/
def create (e : Engine) (now : Instant) (name : String) (f : Filter) :
    Except Error SmartFilter × Engine :=
  match e.validate now f with
  | .error error => (.error error, e)
  | .ok _ =>
    let (outcome, store) := e.store.create name (encode f)
    (outcome.mapError .store, { e with store })

/-- Deletes a saved filter: the outcome, and the engine after the call. `SPEC_FULL.md:282–283`. -/
def delete (e : Engine) (id : Int) : Except Error SmartFilter × Engine :=
  let (outcome, store) := e.store.delete id
  (outcome.mapError .store, { e with store })

/-- The filter that a stream shows at present. -/
def resolve (e : Engine) (stream : Stream) : Except StreamError Decoded :=
  e.store.resolve stream

end Engine

end SeriesFilter
