import SeriesFilter.Json.Builder

/-!
# Reading values of a known type

A reader takes the number of brackets that may still be opened and a tree, and gives a value or
the fault that comes first in the order of the text. A record may be written by its keys or as the
list of its fields in order; keys that it does not know are passed over.
-/

namespace SeriesFilter.Json

/-- A reader of values: how many brackets may still open, and the tree to read. -/
abbrev Reader (α : Type) := Nat → Tree → Except Fault α

/-- How many brackets deep a value of a known type may nest. -/
def maxNesting : Nat := 127

namespace Reader

/-- What is reported of a tree when no bracket may open any more. -/
def tooDeep : Tree → Fault
  | .array .. | .object .. => .malformed
  | t => t.fault

/-- A text. -/
def text : Reader String := fun _ t ↦
  match t with
  | .text (some s) => .ok s
  | t => .error t.fault

/-- A truth value. -/
def bool : Reader Bool := fun _ t ↦
  match t with
  | .bool b => .ok b
  | t => .error t.fault

/-- An integer between two bounds. -/
def integer (least greatest : Int) : Reader Int := fun _ t ↦
  match t with
  | .number n =>
    match n.integer? with
    | some i => if least ≤ i ∧ i ≤ greatest then .ok i else .error .mismatch
    | none => .error t.fault
  | t => .error t.fault

/-- A signed 64-bit integer. -/
def int64 : Reader Int := integer (-0x8000000000000000) 0x7FFFFFFFFFFFFFFF

/-- A signed 32-bit integer. -/
def int32 : Reader Int := integer (-0x80000000) 0x7FFFFFFF

/-- A natural number below a bound. -/
def natural (bound : Nat) : Reader Nat := fun depth t ↦
  (integer 0 (bound - 1) depth t).map Int.toNat

/-- A floating number; an integer is taken as the number nearest to it. -/
def number : Reader Decimal.Number := fun _ t ↦
  match t with
  | .number n =>
    match n.integer?, n.float? with
    | some i, _ => .ok (.ofInt i)
    | none, some f => .ok f
    | none, none => .error .malformed
  | t => .error t.fault

/-- A value or `null`. -/
def optional (r : Reader α) : Reader (Option α) := fun depth t ↦
  match t with
  | .null => .ok none
  | t => (r depth t).map some

/-- A value on which a further test is made. -/
def refine (r : Reader α) (f : α → Option β) : Reader β := fun depth t ↦ do
  match f (← r depth t) with
  | some b => .ok b
  | none => .error .mismatch

/-- The items of a list, each read by `item`. -/
def items (item : Tree → Except Fault α) : Tree → Except Fault (List α)
  | .array items tail => do
    let values ← items.mapM item
    Tree.closing tail
    return values
  | t => .error t.fault

/-- A list of values. -/
def list (r : Reader α) : Reader (List α)
  | 0, t => .error (tooDeep t)
  | depth + 1, t => items (r depth) t

/-- The members of a record and the fault at its end. A list of fields in order counts as a record
with these keys; more items than fields are malformed. -/
def members (keys : List String) : Tree → Except Fault (List (Tree × Tree) × Option Fault)
  | .object members tail => .ok (members, tail)
  | .array items tail =>
    .ok ((keys.map fun key ↦ Tree.text (some key)).zip items,
      if keys.length < items.length then some .malformed else tail)
  | t => .error t.fault

/-- Reads members one after the other into a draft. -/
def gather (put : σ → String → Tree → Except Fault σ) : σ → List (Tree × Tree) → Except Fault σ
  | draft, [] => .ok draft
  | draft, (key, value) :: rest => do
    let draft ← put draft (← key.key) value
    gather put draft rest

/-- A record read into a draft: its members in order, then its end. -/
def record (keys : List String) (put : σ → String → Tree → Except Fault σ) (draft : σ) (t : Tree) :
    Except Fault σ := do
  let (members, tail) ← members keys t
  let draft ← gather put draft members
  Tree.closing tail
  return draft

/-- Fills a field of a draft; a field may be given once. -/
def fill (slot : Option α) (r : Tree → Except Fault α) (t : Tree) : Except Fault (Option α) :=
  match slot with
  | some _ => .error .mismatch
  | none => (r t).map some

/-- A field that must be given. -/
def required (slot : Option α) : Except Fault α :=
  match slot with
  | some value => .ok value
  | none => .error .mismatch

/-- An alternative and what belongs to it: a name alone, or a record of one member. The name is
looked up first; `bare` answers a name alone, `carrying` a name with a value. -/
def choice (named : String → Option κ) (bare : κ → Except Fault α)
    (carrying : κ → Reader α) : Reader α := fun depth t ↦
  let look (name : String) : Except Fault κ :=
    match named name with
    | some k => .ok k
    | none => .error .mismatch
  match t with
  | .text (some name) => do bare (← look name)
  | .object members tail =>
    match depth with
    | 0 => .error .malformed
    | depth + 1 =>
      match members with
      | [] => .error (tail.getD .malformed)
      | (key, value) :: rest => do
        let k ← look (← key.key)
        let result ← carrying k depth value
        if rest.isEmpty then Tree.closing tail else .error .malformed
        return result
  | .absent gap => .error gap.markedFault
  | _ => .error .malformed

/-- A name that carries nothing; the record form gives it `null`. -/
def name (named : String → Option κ) : Reader κ :=
  choice named .ok fun k _ t ↦
    match t with
    | .null => .ok k
    | t => .error t.fault

end Reader

/-- Reads a document: its value, and nothing after it. -/
def Document.read (r : Reader α) (d : Document) : Except Fault α := do
  let value ← r maxNesting d.tree
  if d.followed then .error .malformed else .ok value

/-- Reads a string of JSON. -/
def readString (r : Reader α) (s : String) : Except Fault α :=
  (Document.ofString s).read r

end SeriesFilter.Json
