import SeriesFilter.Json.Token

/-!
# The tree of a JSON text, as far as it goes

A text that breaks off or goes wrong still has a tree: the part that was read, with a mark in the
place where reading must stop. A reader that walks the tree in the order of the text meets its own
mismatches before the mark or the mark before them, and reports what comes first.
-/

namespace SeriesFilter.Json

/-- Why a text gives no value. -/
inductive Fault where
  /-- The text is no JSON. -/
  | malformed
  /-- The text stops before its end. -/
  | early
  /-- The text is JSON of another shape. -/
  | mismatch
  deriving DecidableEq, Repr

/-- The tree of a text. A list or record has a fault at its end when it is not closed in order. -/
inductive Tree where
  | null
  | bool (b : Bool)
  | number (n : Numeral)
  | text (content : Option String)
  | array (items : List Tree) (tail : Option Fault)
  /-- Pairs of key and value. A key in order is a text. -/
  | object (members : List (Tree × Tree)) (tail : Option Fault)
  /-- No value stands in this place. -/
  | absent (gap : Ending)
  deriving Repr

namespace Ending

/-- What a reader of some type reports where a value should begin. -/
def fault : Ending → Fault
  | .malformed => .malformed
  | .ended | .inText | .inWord | .inNumeral => .early

/-- What is reported where a value that nobody needs should begin. -/
def skippedFault : Ending → Fault
  | .malformed | .inNumeral => .malformed
  | .ended | .inText | .inWord => .early

/-- What is reported where the first character decides: at a key, or at the name of an
alternative. -/
def markedFault : Ending → Fault
  | .malformed | .inNumeral | .inWord => .malformed
  | .ended | .inText => .early

/-- What is reported where a comma, a colon or a closing bracket should stand. -/
def pointFault : Ending → Fault
  | .ended => .early
  | .inText | .inWord | .inNumeral | .malformed => .malformed

end Ending

namespace Tree

/-- What a reader reports of a value that is not of its type. A number too large and a string
that is no text are malformed whatever was expected. -/
def fault : Tree → Fault
  | .null | .bool _ | .array .. | .object .. | .text (some _) => .mismatch
  | .text none => .malformed
  | .number n => if n.float?.isNone then .malformed else .mismatch
  | .absent gap => gap.fault

/-- The key of a member. -/
def key : Tree → Except Fault String
  | .text (some key) => .ok key
  | .absent gap => .error gap.markedFault
  | _ => .error .malformed

/-- A fault at the end of a list or record. -/
def closing : Option Fault → Except Fault Unit
  | none => .ok ()
  | some fault => .error fault

mutual

/-- Passes over a value that nobody needs: it must be JSON, but it has no limits. -/
def skip : Tree → Except Fault Unit
  | .null | .bool _ | .number _ | .text _ => .ok ()
  | .array items tail => do
    skipItems items
    closing tail
  | .object members tail => do
    skipMembers members
    closing tail
  | .absent gap => .error gap.skippedFault

/-- Passes over the items of a list. -/
def skipItems : List Tree → Except Fault Unit
  | [] => .ok ()
  | item :: rest => do
    skip item
    skipItems rest

/-- Passes over the members of a record; a key need not be a text. -/
def skipMembers : List (Tree × Tree) → Except Fault Unit
  | [] => .ok ()
  | (.text _, value) :: rest => do
    skip value
    skipMembers rest
  | (.absent gap, _) :: _ => .error gap.markedFault
  | _ :: _ => .error .malformed

end

end Tree

end SeriesFilter.Json
