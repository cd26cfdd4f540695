import DocQuery.Value.Basic
/-!
Equality of values. Numbers are compared numerically, so that NaN differs from itself; arrays in
order; objects by key, whatever the order of their fields; predicates by identity. Values of different
kinds differ. `WellFormed` says that no object has two fields with one key.
-/
namespace DocQuery.Value

mutual

/-- No object in the value has two fields with one key. -/
def WellFormed : Value → Prop
  | .array items => AllWellFormed items
  | .object fields => (Fields.keys fields).Nodup ∧ FieldsWellFormed fields
  | _ => True

def AllWellFormed : List Value → Prop
  | [] => True
  | v :: rest => WellFormed v ∧ AllWellFormed rest

def FieldsWellFormed : List (String × Value) → Prop
  | [] => True
  | (_, v) :: rest => WellFormed v ∧ FieldsWellFormed rest

end

mutual

def equal : Value → Value → Bool
  | .null, .null => true
  | .undefined, .undefined => true
  | .bool a, .bool b => a == b
  | .number a, .number b => a == b
  | .string a, .string b => a == b
  | .array a, .array b => equalItems a b
  | .object a, .object b => a.length == b.length && fieldsWithin a b
  | .date a, .date b => decide (a = b)
  | .regex a, .regex b => decide (a = b)
  | .predicate a, .predicate b => decide (a = b)
  | _, _ => false

def equalItems : List Value → List Value → Bool
  | [], [] => true
  | a :: as, b :: bs => equal a b && equalItems as bs
  | _, _ => false

/-- The second fields have an equal value for every key of the first. -/
def fieldsWithin : List (String × Value) → List (String × Value) → Bool
  | [], _ => true
  | (key, value) :: rest, fields =>
    (match fields.lookup key with
      | some other => equal value other
      | none => false) && fieldsWithin rest fields

end

instance : BEq Value := ⟨equal⟩

end DocQuery.Value
