import DocQuery.Proofs.Value.Nesting
import DocQuery.Value.Normalize

/-!
The comparable form of a value. It changes the elements of arrays one by one and
leaves objects as they are; made a second time it changes nothing.
-/

namespace DocQuery.Value

theorem anyHasDate_eq_any (items : List Value) : anyHasDate items = items.any hasDate := by
  induction items with
  | nil => rfl
  | cons v rest ih => rw [anyHasDate, ih, List.any_cons]

theorem normalizeAll_eq_map (items : List Value) : normalizeAll items = items.map normalize := by
  induction items with
  | nil => rfl
  | cons v rest ih => rw [normalizeAll, ih, List.map_cons]

theorem normalize_of_not_hasDate {v : Value} (h : v.hasDate = false) : v.normalize = v := by
  cases v with
  | array items =>
    rw [hasDate] at h
    rw [normalize, h]
    rfl
  | date t => cases h
  | _ => rfl

theorem normalizeOperand_eq (v : Value) : v.normalizeOperand = v.normalize := by
  rw [normalizeOperand]
  cases h : v.hasDate with
  | true => rfl
  | false => exact (normalize_of_not_hasDate h).symm

theorem normalize_array (items : List Value) :
    (Value.array items).normalize = .array (items.map normalize) := by
  rw [normalize, normalizeAll_eq_map]
  cases h : anyHasDate items with
  | true => rfl
  | false =>
    rw [anyHasDate_eq_any, List.any_eq_false] at h
    have hsame : items.map normalize = items := by
      refine (List.map_congr_left fun v hv => ?_).trans (List.map_id items)
      exact normalize_of_not_hasDate (Bool.eq_false_iff.2 (h v hv))
    rw [hsame]
    rfl

theorem isArray_normalize (v : Value) : v.normalize.IsArray ↔ v.IsArray := by
  cases v with
  | array items => rw [normalize_array, IsArray, IsArray]
  | _ => rfl

theorem isNullish_normalize (v : Value) : v.normalize.isNullish = v.isNullish := by
  cases v with
  | array items =>
    rw [normalize_array]
    rfl
  | _ => rfl

theorem normalize_normalize (v : Value) : v.normalize.normalize = v.normalize := by
  induction v with
  | array items ih =>
    rw [normalize_array, normalize_array, List.map_map]
    exact congrArg array (List.map_congr_left ih)
  | _ => rfl

/-- What an array of comparable form holds is comparable. -/
theorem normalize_item {items : List Value} (h : (array items).normalize = array items) {v : Value}
    (hv : v ∈ items) : v.normalize = v := by
  rw [normalize_array, array.injEq] at h
  have hall := List.map_inj_left.mp (h.trans (List.map_id items).symm)
  exact hall v hv

theorem WellFormed.normalize {v : Value} (h : v.WellFormed) : v.normalize.WellFormed := by
  induction v with
  | array items ih =>
    rw [normalize_array, wellFormed_array, List.forall_mem_map]
    exact fun v hv => ih v hv (wellFormed_array.1 h v hv)
  | date t => trivial
  | _ => exact h

theorem Part.of_normalize {p : Predicate} {v : Value} (h : Part (.predicate p) v.normalize) :
    Part (.predicate p) v := by
  induction v with
  | array items ih =>
    rw [normalize_array] at h
    cases h with
    | item hmem h =>
      obtain ⟨v, hv, rfl⟩ := List.mem_map.1 hmem
      exact .item hv (ih v hv h)
  | date t => cases h
  | _ => exact h

end DocQuery.Value
