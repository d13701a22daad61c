import SeriesFilter.Catalog.Field

/-!
# Comparison operators

Each operator has a number that never changes, a name, a label and the kinds of value it applies
to. A statement is legal when its field may be used and its operator applies to the field's kind.
Spec guidance: `SPEC_FULL.md` §§3/4.1/10.
-/

namespace SeriesFilter

/-- The operators, in the order in which they are listed. -/
inductive Comparison where
  | equal | notEqual | greaterThan | greaterThanEqual | lessThan | lessThanEqual | contains
  | mustContains | notContains | isEmpty | matches | beginsWith | endsWith | isBefore | isAfter
  | isInLast | isNotInLast
  deriving DecidableEq, Repr

namespace Comparison

/-- All operators in listed order. -/
def all : List Comparison :=
  [.equal, .notEqual, .greaterThan, .greaterThanEqual, .lessThan, .lessThanEqual, .contains,
    .mustContains, .notContains, .isEmpty, .matches, .beginsWith, .endsWith, .isBefore,
    .isAfter, .isInLast, .isNotInLast]

/-- Every operator is listed. -/
theorem mem_all (c : Comparison) : c ∈ all := by
  cases c <;> decide

/-- The number that stands for an operator in stored filters. `SPEC_FULL.md:140–143`. -/
def id : Comparison → Int
  | .equal => 0
  | .notEqual => 9
  | .greaterThan => 1
  | .greaterThanEqual => 2
  | .lessThan => 3
  | .lessThanEqual => 4
  | .contains => 5
  | .mustContains => 6
  | .notContains => 8
  | .isEmpty => 16
  | .matches => 7
  | .beginsWith => 10
  | .endsWith => 11
  | .isBefore => 12
  | .isAfter => 13
  | .isInLast => 14
  | .isNotInLast => 15

/-- The operator with a given number. -/
def ofId? (n : Int) : Option Comparison :=
  all.find? fun c ↦ c.id == n

/-- The name of an operator in listings. -/
def name : Comparison → String
  | .equal => "equal"
  | .notEqual => "notEqual"
  | .greaterThan => "greaterThan"
  | .greaterThanEqual => "greaterThanEqual"
  | .lessThan => "lessThan"
  | .lessThanEqual => "lessThanEqual"
  | .contains => "contains"
  | .mustContains => "mustContains"
  | .notContains => "notContains"
  | .isEmpty => "isEmpty"
  | .matches => "matches"
  | .beginsWith => "beginsWith"
  | .endsWith => "endsWith"
  | .isBefore => "isBefore"
  | .isAfter => "isAfter"
  | .isInLast => "isInLast"
  | .isNotInLast => "isNotInLast"

/-- The operator with a given name, whatever the case of its letters. -/
def ofName? (s : String) : Option Comparison :=
  all.find? fun c ↦ Text.sameName c.name s

/-- The label of an operator in messages. -/
def label : Comparison → String
  | .equal => "Is"
  | .notEqual => "Is Not"
  | .greaterThan => "Greater Than"
  | .greaterThanEqual => "Greater Than or Equal"
  | .lessThan => "Less Than"
  | .lessThanEqual => "Less Than or Equal"
  | .contains => "Contains"
  | .mustContains => "Must Contains"
  | .notContains => "Does Not Contain"
  | .isEmpty => "Is Empty"
  | .matches => "Matches"
  | .beginsWith => "Starts With"
  | .endsWith => "Ends With"
  | .isBefore => "Is Before"
  | .isAfter => "Is After"
  | .isInLast => "Is In Last"
  | .isNotInLast => "Is Not In Last"

/-- The kinds of value an operator applies to. `SPEC_FULL.md:32,72–83`. -/
def kinds : Comparison → List ValueKind
  | .equal | .notEqual => [.text, .enum, .number, .date]
  | .greaterThan | .greaterThanEqual | .lessThan | .lessThanEqual => [.number, .date, .duration]
  | .contains | .mustContains | .notContains | .isEmpty => [.collection]
  | .matches | .beginsWith | .endsWith => [.text]
  | .isBefore | .isAfter | .isInLast | .isNotInLast => [.date]

/-- Whether an operator applies to a kind of value. -/
def appliesTo (c : Comparison) (kind : ValueKind) : Bool :=
  c.kinds.contains kind

end Comparison

/-- Whether a statement may use the operator on the field. `SPEC_FULL.md:36,53`. -/
def Field.allows (f : Field) (c : Comparison) : Bool :=
  f.isFilterable && c.appliesTo f.kind

/-- The operators that a field allows, in listed order. -/
def Field.operators (f : Field) : List Comparison :=
  Comparison.all.filter f.allows

/-- Reads a field by its number. -/
def Field.reader : Json.Reader Field :=
  Json.Reader.refine Json.Reader.int32 Field.ofId?

/-- Reads an operator by its number. -/
def Comparison.reader : Json.Reader Comparison :=
  Json.Reader.refine Json.Reader.int32 Comparison.ofId?

end SeriesFilter
