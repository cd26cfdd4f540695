import DocQuery.Operator.Basic
import DocQuery.Operator.Traced
import DocQuery.Value.Equality
/-!
The tests that need no query within them. Each is an operator with its prepared operand. A test is given
the comparable form of a datum, in which instants are numbers, and the datum itself. Unless it says
otherwise a test holds for an array if it holds for some element.
-/
namespace DocQuery

/-- What a datum is tested for when it has to be equal to something. -/
inductive Matcher where
  | literal (v : Value)
  | pattern (p : Pattern)
  | predicate (p : Predicate)

namespace Matcher

/-- Patterns and predicates are asked; any other value has to be equal. -/
def ofValue : Value → Matcher
  | .regex p => pattern p
  | .predicate p => predicate p
  | v => literal v

end Matcher

/-- A string that the pattern matches, or an array with such an element. -/
def Pattern.matchesValue (p : Pattern) : Value → Bool
  | .string s => p.isMatch s
  | .array items => items.any fun item =>
    match item with
    | .string s => p.isMatch s
    | _ => false
  | _ => false

/-- Equality of a datum; an array is equal to what it holds as well as to itself. -/
def equalsLiteral (expected candidate : Value) : Bool :=
  match candidate with
  | .array items => candidate == expected || items.any (· == expected)
  | other => other == expected

namespace Relation

/-- The order of two numbers, two strings or two truth values; other values have none. -/
def order? (candidate operand : Value) : Option Ordering :=
  match candidate, operand with
  | .number a, .number b => a.compare? b
  | .string a, .string b => some (compare a b)
  | .bool a, .bool b => some (compare a b)
  | _, _ => none

def relates (r : Relation) (operand candidate : Value) : Bool :=
  match order? candidate operand with
  | some o => r.holds o
  | none => false

/-- The relation holds for a datum, or for an element of it. -/
def test (r : Relation) (operand candidate : Value) : Bool :=
  match candidate with
  | .array items => items.any (r.relates operand)
  | other => r.relates operand other

end Relation

mutual

/-- Some number, at any depth of arrays, leaves the remainder. -/
def leavesRemainder (divisor remainder : Number) : Value → Bool
  | .number n => n.remainder divisor == remainder
  | .array items => anyLeavesRemainder divisor remainder items
  | _ => false

def anyLeavesRemainder (divisor remainder : Number) : List Value → Bool
  | [] => false
  | v :: rest => leavesRemainder divisor remainder v || anyLeavesRemainder divisor remainder rest

end

/-- A member of a list fits a value: a pattern matches it, any other member is equal to it. -/
def memberFits (member value : Value) : Bool :=
  match member, value with
  | .regex p, .string s => p.isMatch s
  | .regex _, _ => false
  | _, _ => member == value

def someMemberFits (members : List Value) (value : Value) : Bool :=
  members.any fun member => memberFits member value

/-- The datum, or an element of it, is in the list. -/
def isAmong (members : List Value) (candidate : Value) : Bool :=
  match candidate with
  | .array items => members.any (· == candidate) || items.any (someMemberFits members)
  | other => someMemberFits members other

/-- Every member of the list is in the datum. A datum that is no array is taken as an array of itself;
nothing is in a missing one. -/
def hasAllOf (members : List Value) (candidate : Value) : Bool :=
  match candidate with
  | .null | .undefined => false
  | .array items => members.all fun member => items.any (memberFits member)
  | other => members.all fun member => memberFits member other

inductive Check where
  | equals (m : Matcher)
  | differs (m : Matcher)
  | compares (r : Relation) (operand : Value)
  | present (expected : Bool)
  | hasSize (n : Nat)
  | leaves (divisor remainder : Number)
  | isIn (members : List Value)
  | notIn (members : List Value)
  | hasAll (members : List Value)
  | matchesPattern (p : Pattern)
  | satisfies (p : Predicate)
  | hasType (t : ValueType)

namespace Check

def builtin : Check → Builtin
  | equals _ => .eq
  | differs _ => .ne
  | compares r _ => r.builtin
  | present _ => .present
  | hasSize _ => .size
  | leaves _ _ => .modulo
  | isIn _ => .isIn
  | notIn _ => .notIn
  | hasAll _ => .all
  | matchesPattern _ => .regex
  | satisfies _ => .satisfies
  | hasType _ => .hasType

end Check

def Matcher.run (answers : Answers) (m : Matcher) (candidate raw : Value) : Traced Bool :=
  match m with
  | .literal v => pure (equalsLiteral v candidate)
  | .pattern p => pure (p.matchesValue raw)
  | .predicate p => answers.ask p raw

def Check.run (answers : Answers) (check : Check) (candidate raw : Value) : Traced Bool :=
  match check with
  | .equals m => m.run answers candidate raw
  | .differs m => (m.run answers candidate raw).not
  | .compares r operand => pure (r.test operand candidate)
  | .present expected => pure (expected == !candidate.isNullish)
  | .hasSize n => pure (candidate.length? == some n)
  | .leaves divisor remainder => pure (leavesRemainder divisor remainder candidate)
  | .isIn members => pure (isAmong members candidate)
  | .notIn members => pure (!isAmong members candidate)
  | .hasAll members => pure (hasAllOf members candidate)
  | .matchesPattern p => pure (p.matchesValue raw)
  | .satisfies p => answers.ask p raw
  | .hasType t => pure (raw.type? == some t)

end DocQuery
