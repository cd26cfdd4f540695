import DocQuery.Operator.Check
/-!
The operands of the built-in tests: what each of them accepts, and the test that it becomes. Operands
come in their comparable form.
-/
namespace DocQuery.Operand

/-- A size: a whole number that is not negative, or an array of that size. -/
def size (operand : Value) : Except OperandFault Nat :=
  match operand with
  | .number n =>
    match n.integer? with
    | some i => if 0 ≤ i then .ok (min i.toNat 0xFFFFFFFFFFFFFFFF) else .error .notCount
    | none => .error .notCount
  | .array items => .ok items.length
  | _ => .error .notCount

/-- A divisor that is not zero, and a remainder. -/
def division (operand : Value) : Except OperandFault (Number × Number) :=
  match operand with
  | .array [divisor, remainder] =>
    match divisor.number?, remainder.number? with
    | some d, r =>
      if d.isZero then .error .zeroDivisor
      else match r with
        | some r => .ok (d, r)
        | none => .error .notNumbers
    | none, _ => .error .notNumbers
  | _ => .error .notPair

def members (operand : Value) : Except OperandFault (List Value) :=
  match operand with
  | .array items => .ok items
  | _ => .error .notList

def pattern (operand : Value) : Except OperandFault Pattern :=
  match operand with
  | .regex p => .ok p
  | .string source =>
    match Pattern.make source "" with
    | .ok p => .ok p
    | .error fault => .error (.badPattern fault)
  | _ => .error .notPattern

def predicate (operand : Value) : Except OperandFault Predicate :=
  match operand with
  | .predicate p => .ok p
  | .string _ => .error .textualPredicate
  | _ => .error .notPredicate

def valueType (operand : Value) : Except OperandFault ValueType :=
  match operand with
  | .string name =>
    match ValueType.ofName? name with
    | some t => .ok t
    | none => .error (.unknownType name)
  | _ => .error .notTypeName

end DocQuery.Operand
