import DocQuery.Proofs.Value.Normalization

/-!
The comparable form as one map. Where no instant is reached the form is not made, and the
test for that comes again at every array on the way. The map has no such test: it changes
instants, goes into arrays, and leaves everything else alone. Both give the same value. They
change no array but in its elements, place by place, so what stands at a place of the form
is the form of what stands there.
-/

namespace DocQuery.Value

mutual

/-- Instants become the numbers of their milliseconds, at any depth of arrays. -/
def comparable : Value → Value
  | .date t => .number (.ofInt t.epochMillis)
  | .array items => .array (comparableItems items)
  | v => v

def comparableItems : List Value → List Value
  | [] => []
  | v :: rest => comparable v :: comparableItems rest

end

theorem comparable_array (items : List Value) :
    (array items).comparable = array (items.map comparable) := by
  have hitems : comparableItems items = items.map comparable := by
    induction items with
    | nil => rfl
    | cons v rest ih => rw [comparableItems, ih, List.map_cons]
  rw [comparable, hitems]

theorem normalize_eq_comparable (v : Value) : v.normalize = v.comparable := by
  induction v with
  | array items ih =>
    rw [normalize_array, comparable_array]
    exact congrArg array (List.map_congr_left ih)
  | date t => rfl
  | _ => rfl

private theorem hasDate_leaf {v : Value} (hv : ¬v.IsArray) :
    v.hasDate = true ↔ ∃ t, ArrayPart (.date t) v := by
  simp only [arrayPart_iff_eq hv]
  cases v with
  | array items => exact absurd trivial hv
  | _ => simp [hasDate]

/-- The test finds the instants that are reached through arrays alone. -/
theorem hasDate_iff (v : Value) : v.hasDate = true ↔ ∃ t, ArrayPart (.date t) v := by
  induction v with
  | array items ih =>
    rw [hasDate, anyHasDate_eq_any, List.any_eq_true]
    constructor
    · intro h
      obtain ⟨v, hv, hdate⟩ := h
      obtain ⟨t, ht⟩ := (ih v hv).mp hdate
      exact ⟨t, .item hv ht⟩
    · intro h
      obtain ⟨t, ht⟩ := h
      rcases arrayPart_array_iff.mp ht with heq | ⟨v, hv, hdate⟩
      · cases heq
      · exact ⟨v, hv, (ih v hv).mpr ⟨t, hdate⟩⟩
  | _ => exact hasDate_leaf id

theorem hasDate_normalize (v : Value) : v.normalize.hasDate = false := by
  induction v with
  | array items ih =>
    rw [normalize_array, hasDate, anyHasDate_eq_any, List.any_map, List.any_eq_false]
    intro v hv
    simp [ih v hv]
  | _ => rfl

/-- The form of a value is the value itself only where no instant is reached. -/
theorem normalize_eq_self_iff (v : Value) : v.normalize = v ↔ v.hasDate = false := by
  constructor
  · intro h
    rw [← h]
    exact v.hasDate_normalize
  · exact normalize_of_not_hasDate

/-- What stands at a place of a value. A place is told by one index for each array that is
entered on the way to it. -/
def elementAt? (v : Value) : List Nat → Option Value
  | [] => some v
  | index :: rest => (v.at? index).bind fun element => element.elementAt? rest

theorem at?_normalize (v : Value) (index : Nat) :
    v.normalize.at? index = (v.at? index).map normalize := by
  cases v with
  | array items =>
    rw [normalize_array, at?, at?, List.getElem?_map]
  | _ => rfl

theorem elementAt?_normalize (v : Value) (place : List Nat) :
    v.normalize.elementAt? place = (v.elementAt? place).map normalize := by
  induction place generalizing v with
  | nil => rfl
  | cons index rest ih =>
    rw [elementAt?, elementAt?, at?_normalize]
    cases v.at? index with
    | none => rfl
    | some element => exact ih element

theorem normalize_eq_string_iff (v : Value) (s : String) :
    v.normalize = .string s ↔ v = .string s := by
  cases v with
  | array items => simp [normalize_array]
  | _ => simp [normalize]

theorem length_items?_normalize (v : Value) :
    v.normalize.items?.map List.length = v.items?.map List.length := by
  cases v with
  | array items => simp [normalize_array, items?]
  | _ => rfl

/-- The comparable form of a value, and of an operand, is what the plain map gives. Made of a
form it changes nothing. At every place within arrays it has the form of what stood there:
an array of the same length, something or nothing as before, and the same string or none. The
test fails exactly if no instant is reached through arrays alone, and exactly then is the
value its own form. -/
theorem comparable_form_is_plain_map (v : Value) :
    v.normalize = v.comparable ∧ v.normalizeOperand = v.comparable ∧
    v.comparable.comparable = v.comparable ∧
    (∀ place : List Nat,
      v.comparable.elementAt? place = (v.elementAt? place).map comparable ∧
      ((v.comparable.elementAt? place).bind items?).map List.length =
        ((v.elementAt? place).bind items?).map List.length ∧
      (v.comparable.elementAt? place).map isNullish = (v.elementAt? place).map isNullish ∧
      ∀ s, v.comparable.elementAt? place = some (.string s) ↔
        v.elementAt? place = some (.string s)) ∧
    (v.hasDate = false ↔ ∀ t, ¬ArrayPart (.date t) v) ∧
    (v.hasDate = false ↔ v.comparable = v) := by
  have hmap : comparable = normalize := funext fun v => v.normalize_eq_comparable.symm
  rw [hmap]
  refine ⟨rfl, v.normalizeOperand_eq, v.normalize_normalize, ?_, ?_, v.normalize_eq_self_iff.symm⟩
  · intro place
    rw [elementAt?_normalize]
    cases v.elementAt? place with
    | none => simp
    | some element =>
      refine ⟨rfl, ?_, ?_, ?_⟩
      · exact element.length_items?_normalize
      · exact congrArg some element.isNullish_normalize
      · intro s
        simp [normalize_eq_string_iff]
  · rw [Bool.eq_false_iff, Ne, hasDate_iff, not_exists]

end DocQuery.Value
