import DocQuery.Value.Basic
/-!
The comparable form of a value. An instant becomes the number of its milliseconds since the epoch, and
so does every instant that is reached through arrays alone; all else stays as it is. The form is made
only where an instant is reached at all.
-/
namespace DocQuery.Value

mutual

/-- An instant is reached through arrays alone. -/
def hasDate : Value → Bool
  | .date _ => true
  | .array items => anyHasDate items
  | _ => false

def anyHasDate : List Value → Bool
  | [] => false
  | v :: rest => hasDate v || anyHasDate rest

end

mutual

/-- The comparable form; a value in which no instant is reached is given back itself. -/
def normalize : Value → Value
  | .date t => .number t.epochNumber
  | .array items => if anyHasDate items then .array (normalizeAll items) else .array items
  | v => v

def normalizeAll : List Value → List Value
  | [] => []
  | v :: rest => normalize v :: normalizeAll rest

end

def normalizeOperand (v : Value) : Value := if v.hasDate then v.normalize else v

end DocQuery.Value
