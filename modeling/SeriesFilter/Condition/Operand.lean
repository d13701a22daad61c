import SeriesFilter.Calendar.Written
import SeriesFilter.Decimal.Literal
import SeriesFilter.Filter.Basic
import SeriesFilter.Text.Lower
import SeriesFilter.Text.Search

/-!
# Literals as operands

The literal of a statement is text. What it must look like, and what it becomes, depends on the
kind of the field, for dates and collections also on the operator.
Spec guidance: `SPEC_FULL.md` §§3/13.
-/

namespace SeriesFilter

open Calendar Decimal Text

/-- A literal that has been read. `SPEC_FULL.md:37,221–226`. -/
inductive Operand where
  /-- A text as given and in lower case. -/
  | text (exact folded : String)
  | enum (ordinal : Nat)
  | number (n : Number)
  /-- A calendar day in universal time, by its number. -/
  | day (number : Int)
  | instant (t : Instant)
  /-- The last so many seconds before `now`. -/
  | window (seconds : Int) (now : Instant)
  /-- A span in nanoseconds. -/
  | duration (nanos : Int)
  | members (tokens : List String)
  /-- For an operator that takes no literal. -/
  | nothing
  deriving DecidableEq, Repr

/-- Why a literal cannot be read. `SPEC_FULL.md:65,236–237`. -/
inductive LiteralError where
  | noDomain (field : Field)
  | notInDomain (domain : Domain)
  | notANumber
  | notADate
  | notAWindow
  | notADuration
  | unknownUnit (unit : Char)
  | durationOutOfRange
  | noMembers
  deriving DecidableEq, Repr

/-- The message about a literal that cannot be read. -/
def LiteralError.message : LiteralError → String
  | .noDomain field => s!"{field.label} has no value domain"
  | .notInDomain domain => "expected one of " ++ ", ".intercalate domain.names
  | .notANumber => "expected a number"
  | .notADate => "expected a date (YYYY-MM-DD or RFC 3339)"
  | .notAWindow => "expected a non-negative number of seconds"
  | .notADuration => "expected a non-negative duration such as 5, 90m or 2h"
  | .unknownUnit unit => s!"unknown duration unit '{unit}'"
  | .durationOutOfRange => "duration is out of range"
  | .noMembers => "expected at least one value"

namespace Operand

/-- A value or the reason why there is none. -/
def orError (error : LiteralError) : Option α → Except LiteralError α
  | some a => .ok a
  | none => .error error

/-- A text, kept as it stands and in lower case. `SPEC_FULL.md:79–80,221`. -/
def ofText (value : String) : Operand :=
  .text value (lower value)

/-- A day, or else an instant; blanks around it do not count. `SPEC_FULL.md:222–223`. -/
def ofDate (value : String) : Except LiteralError Operand :=
  let s := trimChars value.toList
  match dayOfText s, instantOfText s with
  | .ok d, _ => .ok (.day d)
  | .error _, .ok t => .ok (.instant t)
  | .error _, .error _ => .error .notADate

/-- A window of so many seconds. `SPEC_FULL.md:82,223–224`. -/
def ofWindow (now : Instant) (value : String) : Except LiteralError Operand :=
  let seconds := (count? (trimChars value.toList)).bind fun n ↦ span? n
  orError .notAWindow (seconds.map fun s ↦ .window s now)

/-- The seconds in a unit of time. `SPEC_FULL.md:224–225`. -/
def unitSeconds? : Char → Option Nat
  | 's' => some 1
  | 'm' => some 60
  | 'h' => some 3600
  | 'd' => some 86400
  | _ => none

/-- The count and the unit of a duration: a letter at the end names the unit, and without one the
count is of hours. `SPEC_FULL.md:224–225`. -/
def splitUnit (s : List Char) : List Char × Char :=
  match s.getLast? with
  | some c => if isLetter c then (s.dropLast, c.toLower) else (s, 'h')
  | none => (s, 'h')

/-- The seconds of a duration; the count is read before the unit. `SPEC_FULL.md:224–225`. -/
def durationOfText (value : String) : Except LiteralError Int := do
  let (digits, unit) := splitUnit (trimChars value.toList)
  let n ← orError .notADuration (count? (trimChars digits))
  let seconds ← orError (.unknownUnit unit) (unitSeconds? unit)
  orError .durationOutOfRange (span? (n * seconds))

/-- The parts of a text between commas, without blanks around them and without empty ones.
`SPEC_FULL.md:33,225–226`. -/
def splitTokens (value : String) : List String :=
  ((splitAtEach ',' value.toList).map trimChars |>.filter (!·.isEmpty)).map String.ofList

/-- The operand of a literal for a field and an operator. `SPEC_FULL.md:37,65,221–226`. -/
def ofLiteral (field : Field) (comparison : Comparison) (now : Instant) (value : String) :
    Except LiteralError Operand :=
  match field.kind with
  | .text => .ok (ofText value)
  | .enum =>
    match field.domain? with
    | some domain => orError (.notInDomain domain) ((domain.ordinal? value).map .enum)
    | none => .error (.noDomain field)
  | .number => orError .notANumber ((numberOfText? (trimChars value.toList)).map .number)
  | .date =>
    match comparison with
    | .isInLast | .isNotInLast => ofWindow now value
    | _ => ofDate value
  | .duration => (durationOfText value).map fun seconds ↦ .duration (seconds * secondParts)
  | .collection =>
    match comparison with
    | .isEmpty => .ok .nothing
    | _ =>
      match splitTokens value with
      | [] => .error .noMembers
      | tokens => .ok (.members tokens)

end Operand

end SeriesFilter
