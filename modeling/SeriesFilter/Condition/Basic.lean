import SeriesFilter.Condition.Operand
import SeriesFilter.Entity
import SeriesFilter.Text.Search

/-!
# Conditions

A condition is a statement whose literal has been read. It is tested on one entity at a time. An
entity without a value for the field, or with one of another shape than the operand, never passes,
whatever the operator.
Spec guidance: `SPEC_FULL.md` §§4.4/14.
-/

namespace SeriesFilter

open Calendar Decimal Text

/-- A statement ready to be tested. `SPEC_FULL.md:215–217`. -/
structure Condition where
  field : Field
  comparison : Comparison
  kind : ValueKind
  operand : Operand
  deriving DecidableEq, Repr

namespace Condition

/-- Whether testing the condition in storage means looking at related records.
`SPEC_FULL.md:66,216–217`. -/
def needsJoin (c : Condition) : Bool :=
  c.kind == .collection

/-- The operators on texts. Equality looks at letters as they are, the others at lower case.
`SPEC_FULL.md:74,79–80`. -/
def textHolds (comparison : Comparison) (exact folded text : String) : Bool :=
  match comparison with
  | .equal => text == exact
  | .notEqual => text != exact
  | .matches => occursIn folded.toList (lowerChars text.toList)
  | .beginsWith => folded.toList.isPrefixOf (lowerChars text.toList)
  | .endsWith => folded.toList.isSuffixOf (lowerChars text.toList)
  | _ => false

/-- The operators on several texts: one must match, but for inequality none may be equal.
`SPEC_FULL.md:162–163`, which makes no exception for inequality. -/
def anyTextHolds (comparison : Comparison) (exact folded : String) (texts : List String) : Bool :=
  match comparison with
  | .notEqual => !texts.contains exact
  | _ => texts.any (textHolds comparison exact folded)

/-- The operators on ordered values, given how the value compares with the literal.
`SPEC_FULL.md:74–75,81`. -/
def orderHolds (comparison : Comparison) (order : Ordering) : Bool :=
  match comparison with
  | .equal => order == .eq
  | .notEqual => order != .eq
  | .greaterThan | .isAfter => order == .gt
  | .greaterThanEqual => order != .lt
  | .lessThan | .isBefore => order == .lt
  | .lessThanEqual => order != .gt
  | _ => false

/-- The operators on ordinals. `SPEC_FULL.md:74`. -/
def ordinalHolds (comparison : Comparison) (expected actual : Nat) : Bool :=
  match comparison with
  | .equal => actual == expected
  | .notEqual => actual != expected
  | _ => false

/-- The operators on numbers: equality up to a tolerance, the others by the total order.
`SPEC_FULL.md:74–75`, which knows no tolerance. -/
def numberHolds (comparison : Comparison) (expected actual : Number) : Bool :=
  match comparison with
  | .equal => actual.isNear expected
  | .notEqual => actual.isFar expected
  | _ => orderHolds comparison (actual.compare expected)

/-- The operators on windows: the bound belongs to the window. `SPEC_FULL.md:82,102`. -/
def windowHolds (comparison : Comparison) (seconds : Int) (now actual : Instant) : Bool :=
  let elapsed := now.since actual
  match comparison with
  | .isInLast => elapsed ≤ seconds * secondParts
  | .isNotInLast => elapsed > seconds * secondParts
  | _ => false

/-- The operators on collections. `SPEC_FULL.md:33,76–78,103`. -/
def membersHold (comparison : Comparison) (tokens members : List String) : Bool :=
  match comparison with
  | .contains => tokens.any members.contains
  | .mustContains => tokens.all members.contains
  | .notContains => !tokens.any members.contains
  | _ => false

/-- Whether an operator and its operand hold of a value. `SPEC_FULL.md:72–83,247–248`. -/
def holds (comparison : Comparison) (operand : Operand) (value : FieldValue) : Bool :=
  match operand, value with
  | .text exact folded, .text text => textHolds comparison exact folded text
  | .text exact folded, .texts texts => anyTextHolds comparison exact folded texts
  | .enum expected, .enum actual => ordinalHolds comparison expected actual
  | .number expected, .number actual => numberHolds comparison expected actual
  | .day number, .date (some actual) => orderHolds comparison (compare actual.day number)
  | .instant t, .date (some actual) => orderHolds comparison (actual.compare t)
  | .window seconds now, .date (some actual) => windowHolds comparison seconds now actual
  | .duration expected, .duration actual => orderHolds comparison (compare actual expected)
  | .members tokens, .members members => membersHold comparison tokens members
  | .nothing, .members members => comparison == .isEmpty && members.isEmpty
  | _, _ => false

/-- Whether an entity passes a condition. `SPEC_FULL.md:247–248`. -/
def evaluate [Filterable α] (c : Condition) (entity : α) : Bool :=
  match Filterable.value? entity c.field with
  | some value => holds c.comparison c.operand value
  | none => false

end Condition

end SeriesFilter
