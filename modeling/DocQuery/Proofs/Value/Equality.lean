import DocQuery.Proofs.Value.Fields
import DocQuery.Proofs.Value.Rearrangement
import Mathlib.Data.List.Perm.Subperm

/-!
Equality of values, read off their parts. Objects with distinct keys are equal exactly if
every key has equal values in both, or is in neither; this says nothing of the sides, and
so equality is symmetric.
-/

namespace DocQuery

theorem Fields.mem_of_lookup {α : Type} {fields : List (String × α)} {key : String} {v : α}
    (h : fields.lookup key = some v) : (key, v) ∈ fields := by
  obtain ⟨before, after, rfl, -⟩ := List.lookup_eq_some_iff.mp h
  exact List.mem_append_right before List.mem_cons_self

theorem Fields.mem_keys_iff {α : Type} {fields : List (String × α)} {key : String} :
    key ∈ keys fields ↔ (fields.lookup key).isSome = true := by
  rw [List.lookup_isSome_iff, keys, List.mem_map]
  simp only [beq_iff_eq, eq_comm (a := key)]

/-- Fields that have the same keys have them in some order. -/
theorem Fields.keys_perm_of_rel {α β : Type} {R : α → β → Prop} {fields : List (String × α)}
    {others : List (String × β)} (hfields : (keys fields).Nodup) (hothers : (keys others).Nodup)
    (h : ∀ key, Option.Rel R (fields.lookup key) (others.lookup key)) :
    (keys fields).Perm (keys others) := by
  rw [List.perm_ext_iff_of_nodup hfields hothers]
  intro key
  have hkey := h key
  rw [mem_keys_iff, mem_keys_iff]
  generalize fields.lookup key = v, others.lookup key = w at hkey
  cases hkey <;> simp

theorem Number.equal_comm (a b : Number) : a.equal b = b.equal a := by
  rw [Bool.eq_iff_iff, equal_iff, equal_iff]
  exact exists_congr fun p => and_comm

namespace Value

theorem fieldsWithin_iff {fields others : List (String × Value)} (hkeys : (Fields.keys fields).Nodup) :
    fieldsWithin fields others = true ↔
      ∀ key v, fields.lookup key = some v → ∃ w, others.lookup key = some w ∧ v.equal w = true := by
  rw [fieldsWithin_eq_all, List.all_eq_true]
  constructor
  · intro h key v hv
    exact (Option.any_eq_true _ _).mp (h (key, v) (Fields.mem_of_lookup hv))
  · rintro h ⟨key, v⟩ hmem
    exact (Option.any_eq_true _ _).mpr (h key v (Fields.lookup_of_mem hkeys hmem))

/-- Objects are equal if every key has equal values in both or is in neither. -/
theorem equal_object_iff {fields others : List (String × Value)}
    (hfields : (Fields.keys fields).Nodup) (hothers : (Fields.keys others).Nodup) :
    (object fields).equal (object others) = true ↔
      ∀ key, Option.Rel (fun v w => v.equal w = true) (fields.lookup key) (others.lookup key) := by
  rw [equal, Bool.and_eq_true, beq_iff_eq, fieldsWithin_iff hfields]
  constructor
  · rintro ⟨hlength, hwithin⟩ key
    have hsubset : Fields.keys fields ⊆ Fields.keys others := by
      intro key hkey
      obtain ⟨v, hv⟩ := Option.isSome_iff_exists.mp (Fields.mem_keys_iff.mp hkey)
      obtain ⟨w, hw, -⟩ := hwithin key v hv
      exact Fields.mem_keys_iff.mpr (Option.isSome_iff_exists.mpr ⟨w, hw⟩)
    have hperm : (Fields.keys fields).Perm (Fields.keys others) := by
      apply (List.Nodup.subperm hfields hsubset).perm_of_length_le
      rw [Fields.keys, Fields.keys, List.length_map, List.length_map, hlength]
    have hkey := hperm.mem_iff (a := key)
    rw [Fields.mem_keys_iff, Fields.mem_keys_iff] at hkey
    cases hv : fields.lookup key with
    | some v =>
      obtain ⟨w, hw, hvw⟩ := hwithin key v hv
      rw [hw]
      exact .some hvw
    | none =>
      rw [hv, Option.isSome_none, Bool.false_eq_true, false_iff, Bool.not_eq_true,
        Option.isSome_eq_false_iff, Option.isNone_iff_eq_none] at hkey
      rw [hkey]
      exact .none
  · intro h
    have hperm := Fields.keys_perm_of_rel hfields hothers h
    refine ⟨by simpa [Fields.keys] using hperm.length_eq, ?_⟩
    intro key v hv
    have hkey := h key
    rw [hv] at hkey
    generalize others.lookup key = found at hkey
    cases hkey with
    | some hvw => exact ⟨_, rfl, hvw⟩

/-- Equality is symmetric, where keys are distinct. -/
theorem equal_comm {v w : Value} (hv : v.WellFormed) (hw : w.WellFormed) : v.equal w = w.equal v := by
  induction v generalizing w with
  | array items ih =>
    cases w with
    | array others =>
      rw [wellFormed_array] at hv hw
      change equalItems items others = equalItems others items
      induction items generalizing others with
      | nil => cases others <;> rfl
      | cons v rest ihrest =>
        cases others with
        | nil => rfl
        | cons w others =>
          rw [List.forall_mem_cons] at hv hw ih
          rw [equalItems, equalItems, ih.1 hv.1 hw.1, ihrest ih.2 hv.2 others hw.2]
    | _ => rfl
  | object fields ih =>
    cases w with
    | object others =>
      rw [wellFormed_object] at hv hw
      rw [Bool.eq_iff_iff, equal_object_iff hv.1 hw.1, equal_object_iff hw.1 hv.1]
      refine forall_congr' fun key => ?_
      cases hfield : fields.lookup key with
      | none => cases others.lookup key <;> simp
      | some v =>
        cases hother : others.lookup key with
        | none => simp
        | some w =>
          have hvwell := hv.2 _ (Fields.mem_of_lookup hfield)
          have hwwell := hw.2 _ (Fields.mem_of_lookup hother)
          have hcomm := ih (key, v) (Fields.mem_of_lookup hfield) hvwell hwwell
          rw [Option.rel_some_some, Option.rel_some_some, hcomm]
    | _ => rfl
  | number n =>
    cases w with
    | number m => exact n.equal_comm m
    | _ => rfl
  | _ =>
    cases w <;> first | rfl | exact BEq.comm | exact decide_eq_decide.mpr eq_comm

end Value
end DocQuery
