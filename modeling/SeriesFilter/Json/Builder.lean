import SeriesFilter.Json.Scanner
import SeriesFilter.Json.Tree

/-!
# From tokens to a tree

The builder is a fold of one step over the tokens, with the lists and records that are still open
on a stack. At the first token that cannot stand where it does, or at the end of the tokens, the
open ones are closed around the place where reading stops.
-/

namespace SeriesFilter.Json

/-- Where a list stands. -/
inductive ListPlace where
  | opened | afterItem | afterComma
  deriving DecidableEq, Repr

/-- Where a record stands. -/
inductive RecordPlace where
  | opened | afterKey | afterColon | afterValue | afterComma
  deriving DecidableEq, Repr

/-- A list or record that is still open, its parts latest first. -/
inductive Frame where
  | array (place : ListPlace) (items : List Tree)
  | object (place : RecordPlace) (key : Tree) (members : List (Tree × Tree))
  deriving Repr

/-- The builder. -/
inductive Builder where
  /-- Some value is being read; the innermost frame comes first. -/
  | reading (stack : List Frame)
  /-- The value is complete; the flag tells whether something follows it. -/
  | complete (tree : Tree) (followed : Bool)
  /-- Reading stopped inside the value. -/
  | broken (tree : Tree)
  deriving Repr

namespace Frame

/-- The frame with a value in the place where it is expected. -/
def put (value : Tree) : Frame → Frame
  | .array _ items => .array .afterItem (value :: items)
  | .object _ key members => .object .afterValue key ((key, value) :: members)

/-- The list or record that a frame becomes. -/
def close (tail : Option Fault) : Frame → Tree
  | .array _ items => .array items.reverse tail
  | .object _ _ members => .object members.reverse tail

/-- Whether a value may stand next. -/
def wantsValue : Frame → Bool
  | .array place _ => place != .afterItem
  | .object place _ _ => place == .afterColon

end Frame

namespace Builder

/-- A finished value, put where it belongs. -/
def deliver (value : Tree) : List Frame → Builder
  | [] => .complete value false
  | frame :: stack => .reading (frame.put value :: stack)

/-- The tree of a value that stops inside: each frame around it is closed as it stands. -/
def wrap (value : Tree) : List Frame → Tree
  | [] => value
  | frame :: stack => wrap ((frame.put value).close (some .early)) stack

/-- Stops at a place where no value can begin. -/
def stopAt (gap : Ending) (stack : List Frame) : Builder :=
  .broken (wrap (.absent gap) stack)

/-- Stops in a list or record that is not closed in order. -/
def stopIn (fault : Fault) (frame : Frame) (stack : List Frame) : Builder :=
  .broken (wrap (frame.close (some fault)) stack)

/-- Stops at a key: `key` is what stands there, and it has no value. -/
def stopAtKey (key : Tree) (members : List (Tree × Tree)) (stack : List Frame) : Builder :=
  .broken (wrap ((Frame.object .afterColon key members).put (.absent .malformed) |>.close none)
    stack)

/-- A token where a value may begin. -/
def beginValue (stack : List Frame) : Token → Builder
  | .openBracket => .reading (.array .opened [] :: stack)
  | .openBrace => .reading (.object .opened .null [] :: stack)
  | .null => deliver .null stack
  | .bool b => deliver (.bool b) stack
  | .number n => deliver (.number n) stack
  | .text content => deliver (.text content) stack
  | .closeBracket | .closeBrace | .comma | .colon => stopAt .malformed stack

/-- What stands at a key that is no string. -/
def strayKey : Token → Tree
  | .openBracket => .array [] none
  | .openBrace => .object [] none
  | .null => .null
  | .bool b => .bool b
  | .number n => .number n
  | .text content => .text content
  | .closeBracket | .closeBrace | .comma | .colon => .absent .malformed

/-- A token where a key should stand. -/
def beginKey (members : List (Tree × Tree)) (stack : List Frame) : Token → Builder
  | .text content => .reading (.object .afterKey (.text content) members :: stack)
  | token => stopAtKey (strayKey token) members stack

/-- One token. -/
def step (b : Builder) (token : Token) : Builder :=
  match b with
  | .broken tree => .broken tree
  | .complete tree _ => .complete tree true
  | .reading [] => beginValue [] token
  | .reading (.array place items :: stack) =>
    let frame := Frame.array place items
    match place, token with
    | .opened, .closeBracket | .afterItem, .closeBracket => deliver (frame.close none) stack
    | .afterItem, .comma => .reading (.array .afterComma items :: stack)
    | .afterItem, _ => stopIn .malformed frame stack
    | .opened, token | .afterComma, token => beginValue (frame :: stack) token
  | .reading (.object place key members :: stack) =>
    let frame := Frame.object place key members
    match place, token with
    | .opened, .closeBrace | .afterValue, .closeBrace => deliver (frame.close none) stack
    | .opened, token | .afterComma, token => beginKey members stack token
    | .afterKey, .colon => .reading (.object .afterColon key members :: stack)
    | .afterKey, _ => stopAt .malformed (frame :: stack)
    | .afterColon, token => beginValue (frame :: stack) token
    | .afterValue, .comma => .reading (.object .afterComma key members :: stack)
    | .afterValue, _ => stopIn .malformed frame stack

/-- The end of the tokens. -/
def finish (b : Builder) (ending : Ending) : Builder :=
  match b with
  | .broken tree => .broken tree
  | .complete tree followed => .complete tree (followed || ending != .ended)
  | .reading [] => stopAt ending []
  | .reading (frame :: stack) =>
    match frame with
    | .array .opened _ =>
      if ending = .ended then stopIn .early frame stack else stopAt ending (frame :: stack)
    | .array .afterItem _ => stopIn ending.pointFault frame stack
    | .array .afterComma _ | .object .afterColon .. => stopAt ending (frame :: stack)
    | .object .opened _ members =>
      if ending = .ended then stopIn .early frame stack
      else stopAtKey (.absent ending) members stack
    | .object .afterComma _ members => stopAtKey (.absent ending) members stack
    | .object .afterKey .. =>
      stopAt (if ending = .ended then .ended else .malformed) (frame :: stack)
    | .object .afterValue .. => stopIn ending.pointFault frame stack

end Builder

/-- A text as a tree, with what follows the value. -/
structure Document where
  tree : Tree
  followed : Bool
  deriving Repr

namespace Document

/-- The document of a list of tokens. -/
def ofTokens (t : Tokens) : Document :=
  match (t.tokens.foldl Builder.step (.reading [])).finish t.ending with
  | .complete tree followed => ⟨tree, followed⟩
  | .broken tree => ⟨tree, false⟩
  | .reading _ => ⟨.absent t.ending, false⟩

/-- The document of a text given by its bytes. -/
def ofBytes (bytes : List UInt8) : Document :=
  ofTokens (Tokens.ofBytes bytes)

/-- The document of a string. -/
def ofString (s : String) : Document :=
  ofBytes s.toUTF8.toList

end Document

end SeriesFilter.Json
