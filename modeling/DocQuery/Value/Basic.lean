import DocQuery.Instant.Basic
import DocQuery.Pattern
import DocQuery.Value.Fields
/-!
Values: the data that queries are asked about, and the queries themselves. Beside what JSON can say
there are instants, patterns, predicates, and the value that stands for absence. A predicate is known
by its number only; what it answers is given where a query is run.
-/
namespace DocQuery

/-- A test that is not made of operators. -/
structure Predicate where
  id : Nat
deriving DecidableEq

inductive Value where
  | null
  | bool (b : Bool)
  | number (n : Number)
  | string (s : String)
  | array (items : List Value)
  | object (fields : List (String × Value))
  | undefined
  | date (t : Instant)
  | regex (p : Pattern)
  | predicate (p : Predicate)

instance : Inhabited Value := ⟨.null⟩

inductive ValueType where
  | string
  | number
  | bool
  | array
  | object
  | date
  | regex
  | function
deriving DecidableEq

namespace ValueType

def name : ValueType → String
  | string => "string"
  | number => "number"
  | bool => "bool"
  | array => "array"
  | object => "object"
  | date => "date"
  | regex => "regex"
  | function => "function"

/-- The type with a name; some types have a second name. -/
def ofName? (name : String) : Option ValueType :=
  match name with
  | "string" => some string
  | "number" => some number
  | "bool" | "boolean" => some bool
  | "array" => some array
  | "object" => some object
  | "date" => some date
  | "regex" | "regexp" => some regex
  | "function" | "predicate" => some function
  | _ => none

def unknownName (name : String) : String := "unknown type name '" ++ name ++ "'"

end ValueType

namespace Value

/-- Null, or no value at all. -/
def isNullish : Value → Bool
  | null | undefined => true
  | _ => false

/-- Absence, null, false, both zeros, NaN and the empty string are not truthy. -/
def isTruthy : Value → Bool
  | null | undefined => false
  | bool b => b
  | number n => !n.isZero && !n.isNaN
  | string s => !s.isEmpty
  | _ => true

/-- The type of a value; null and absence have none. -/
def type? : Value → Option ValueType
  | null | undefined => none
  | bool _ => some .bool
  | number _ => some .number
  | string _ => some .string
  | array _ => some .array
  | object _ => some .object
  | date _ => some .date
  | regex _ => some .regex
  | predicate _ => some .function

def number? : Value → Option Number
  | number n => some n
  | _ => none

/-- The bounds of 64-bit integers. -/
def int64Least : Int := -0x8000000000000000
def int64Most : Int := 0x7FFFFFFFFFFFFFFF

/-- The 64-bit integer that a number is. One more than the largest counts as the largest. -/
def int64OfNumber? (n : Number) : Option Int :=
  match n.integer? with
  | some i => if int64Least ≤ i ∧ i ≤ int64Most + 1 then some (min i int64Most) else none
  | none => none

def int64? : Value → Option Int
  | number n => int64OfNumber? n
  | _ => none

def string? : Value → Option String
  | string s => some s
  | _ => none

def bool? : Value → Option Bool
  | bool b => some b
  | _ => none

def items? : Value → Option (List Value)
  | array items => some items
  | _ => none

def fields? : Value → Option (List (String × Value))
  | object fields => some fields
  | _ => none

def date? : Value → Option Instant
  | date t => some t
  | _ => none

def get? (v : Value) (key : String) : Option Value :=
  match v with
  | object fields => fields.lookup key
  | _ => none

def at? (v : Value) (index : Nat) : Option Value :=
  match v with
  | array items => items[index]?
  | _ => none

def length? : Value → Option Nat
  | array items => some items.length
  | string s => some s.length
  | _ => none

def singleton (key : String) (value : Value) : Value := object [(key, value)]

def follow? (v : Value) (path : List String) : Option Value :=
  match path with
  | [] => some v
  | key :: rest => (v.get? key).bind fun w => w.follow? rest

end Value
end DocQuery
