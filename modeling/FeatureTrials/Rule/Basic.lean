import FeatureTrials.Text.Search
import FeatureTrials.User

/-!
# Rules

A rule compares one attribute of a user with a value. Evaluation never fails: an attribute that is
missing, or a value that cannot be read as the operator needs it, is no match, except that the two
negated operators are matched by everything their positive ones are not.

Segments and the targeting of experiments are lists of rules that all have to match.
-/

namespace FeatureTrials

/-- How a rule compares. -/
inductive Operator where
  | equals
  | notEquals
  | greaterThan
  | lessThan
  | greaterThanOrEqual
  | lessThanOrEqual
  | contains
  | startsWith
  | endsWith
  | isIn
  | notIn
  deriving DecidableEq, Repr

/-- The type both sides of an equality are read as. -/
inductive DeclaredType where
  | text
  | number
  | boolean
  deriving DecidableEq, Repr

/-- A comparison of one attribute. -/
structure Rule where
  /-- the name of the attribute that is compared -/
  subject : String
  operator : Operator
  value : AttributeValue
  declared : Option DeclaredType := none
  deriving BEq

/-! ## Comparisons -/

namespace AttributeValue

/-- Both sides are numbers and compare as asked. -/
def numbersSatisfy (p : Float → Float → Bool) (a b : AttributeValue) : Bool :=
  match a.number?, b.number? with
  | some x, some y => p x y
  | _, _ => false

/-- The texts of both sides compare as asked. -/
def textsSatisfy (p : List Char → List Char → Bool) (a b : AttributeValue) : Bool :=
  p a.display.toList b.display.toList

/-- Equality under a declared type. -/
def equalsAs (declared : Option DeclaredType) (a b : AttributeValue) : Bool :=
  match declared with
  | some .number => a.numbersSatisfy (· == ·) b
  | some .boolean =>
    match a.bool?, b.bool? with
    | some x, some y => x == y
    | _, _ => false
  | some .text => a.display == b.display
  | none => a == b

/-- One of the elements of the right side is equal under the declared type, or loosely. -/
def isInAs (declared : Option DeclaredType) (a b : AttributeValue) : Bool :=
  b.items.any fun item => a.equalsAs declared item || a.looselyEquals item

end AttributeValue

/-- An operator holds between an attribute that is there and a rule's value. -/
def Operator.holds (operator : Operator) (declared : Option DeclaredType)
    (a b : AttributeValue) : Bool :=
  match operator with
  | .equals => a.equalsAs declared b
  | .notEquals => !a.equalsAs declared b
  | .greaterThan => a.numbersSatisfy (· > ·) b
  | .lessThan => a.numbersSatisfy (· < ·) b
  | .greaterThanOrEqual => a.numbersSatisfy (· ≥ ·) b
  | .lessThanOrEqual => a.numbersSatisfy (· ≤ ·) b
  | .contains => a.textsSatisfy Text.contains b
  | .startsWith => a.textsSatisfy Text.startsWith b
  | .endsWith => a.textsSatisfy Text.endsWith b
  | .isIn => a.isInAs declared b
  | .notIn => !a.isInAs declared b

/-- An operator that a missing attribute satisfies. -/
def Operator.isNegated : Operator → Bool
  | .notEquals => true
  | .notIn => true
  | _ => false

namespace Rule

/-- The rule holds of a user. -/
def matchesUser (rule : Rule) (user : User) : Bool :=
  match user.attribute? rule.subject with
  | some value => rule.operator.holds rule.declared value rule.value
  | none => rule.operator.isNegated

/-- All rules hold of a user. -/
def allMatch (rules : List Rule) (user : User) : Bool :=
  rules.all (·.matchesUser user)

end Rule

end FeatureTrials
