import DocQuery.Proofs.Value.Equality

/-!
Equality of values is a partial equivalence. Two equal values are the same, or are equal
numbers, or arrays with equal elements in order, or objects with equal values for the
same keys; this is the only place where the sides are taken apart. From it equality is
transitive, and what is asked of values apart from equality comes out the same of equal
ones. A value is equal to itself unless there is a NaN somewhere in it.
-/

namespace DocQuery

/-- Fields with corresponding values for the same keys give the same, in some order. -/
theorem Fields.map_values_perm {α β : Type} {fields others : List (String × α)} {f : α → β}
    (hfields : (keys fields).Nodup) (hothers : (keys others).Nodup)
    (h : ∀ key, Option.Rel (fun v w => f v = f w) (fields.lookup key) (others.lookup key)) :
    (fields.map fun field => f field.2).Perm (others.map fun field => f field.2) := by
  have hread : ∀ {list : List (String × α)}, (keys list).Nodup →
      (keys list).filterMap (fun key => (list.lookup key).map f) =
        list.map fun field => f field.2 := by
    intro list hkeys
    rw [keys, List.filterMap_map, List.filterMap_eq_map_iff_forall_eq_some]
    intro field hfield
    rw [Function.comp_apply, lookup_of_mem hkeys hfield]
    rfl
  have hvalues : (fun key => (fields.lookup key).map f) = fun key => (others.lookup key).map f := by
    funext key
    have hkey := h key
    generalize fields.lookup key = v, others.lookup key = w at hkey
    cases hkey with
    | none => rfl
    | some hvw => exact congrArg some hvw
  rw [← hread hfields, ← hread hothers, hvalues]
  exact (keys_perm_of_rel hfields hothers h).filterMap _

theorem Number.equal_trans {a b c : Number} (hab : a.equal b = true) (hbc : b.equal c = true) :
    a.equal c = true := by
  obtain ⟨p, ha, hb⟩ := equal_iff.mp hab
  obtain ⟨q, hb', hc⟩ := equal_iff.mp hbc
  rw [hb, Option.some.injEq] at hb'
  exact equal_iff.mpr ⟨p, ha, hb' ▸ hc⟩

theorem Number.isNaN_eq_isNone (n : Number) : n.isNaN = n.position.isNone := by
  cases n <;> rfl

/-- Equal numbers are one number, but for the sign of zero. -/
theorem Number.position_eq {a b : Number} (h : a.equal b = true) : a.position = b.position := by
  obtain ⟨p, ha, hb⟩ := equal_iff.mp h
  rw [ha, hb]

namespace Value

theorem equal_array_iff {items others : List Value} :
    (array items).equal (array others) = true ↔
      List.Forall₂ (fun v w => v.equal w = true) items others := by
  rw [equal]
  induction items generalizing others with
  | nil => cases others <;> simp [equalItems]
  | cons v rest ih =>
    cases others with
    | nil => simp [equalItems]
    | cons w others => rw [equalItems, Bool.and_eq_true, ih, List.forall₂_cons]

/-- How two equal values look. -/
inductive EqualForm : Value → Value → Prop
  | same (v : Value) : EqualForm v v
  | number {a b : Number} (h : a.equal b = true) : EqualForm (number a) (number b)
  | array {items others : List Value} (h : List.Forall₂ (fun v w => v.equal w = true) items others) :
      EqualForm (array items) (array others)
  | object {fields others : List (String × Value)}
      (h : ∀ key, Option.Rel (fun v w => v.equal w = true) (fields.lookup key) (others.lookup key)) :
      EqualForm (object fields) (object others)

theorem equalForm_of_equal {v w : Value} (hv : v.WellFormed) (hw : w.WellFormed)
    (h : v.equal w = true) : EqualForm v w := by
  cases v with
  | null | undefined =>
    cases w <;> first | exact .same _ | cases h
  | bool b =>
    cases w with
    | bool c => exact eq_of_beq h ▸ .same _
    | _ => cases h
  | number a =>
    cases w with
    | number b => exact .number h
    | _ => cases h
  | string s =>
    cases w with
    | string t => exact eq_of_beq h ▸ .same _
    | _ => cases h
  | array items =>
    cases w with
    | array others => exact .array (equal_array_iff.mp h)
    | _ => cases h
  | object fields =>
    cases w with
    | object others =>
      rw [wellFormed_object] at hv hw
      exact .object ((equal_object_iff hv.1 hw.1).mp h)
    | _ => cases h
  | date t =>
    cases w with
    | date u => exact of_decide_eq_true h ▸ .same _
    | _ => cases h
  | regex p =>
    cases w with
    | regex q => exact of_decide_eq_true h ▸ .same _
    | _ => cases h
  | predicate p =>
    cases w with
    | predicate q => exact of_decide_eq_true h ▸ .same _
    | _ => cases h

theorem equal_trans {u v w : Value} (hu : u.WellFormed) (hv : v.WellFormed) (hw : w.WellFormed)
    (huv : u.equal v = true) (hvw : v.equal w = true) : u.equal w = true := by
  induction u generalizing v w with
  | number a =>
    cases equalForm_of_equal hu hv huv with
    | same => exact hvw
    | number hab =>
      cases equalForm_of_equal hv hw hvw with
      | same => exact huv
      | number hbc => exact Number.equal_trans hab hbc
  | array items ih =>
    cases equalForm_of_equal hu hv huv with
    | same => exact hvw
    | array hfirst =>
      cases equalForm_of_equal hv hw hvw with
      | same => exact huv
      | array hsecond =>
        rw [wellFormed_array] at hu hv hw
        refine equal_array_iff.mpr (forall₂_comp hfirst hsecond fun a ha b hb c hc => ?_)
        exact ih a ha (hu a ha) (hv b hb) (hw c hc)
  | object fields ih =>
    cases equalForm_of_equal hu hv huv with
    | same => exact hvw
    | object hfirst =>
      cases equalForm_of_equal hv hw hvw with
      | same => exact huv
      | object hsecond =>
        rw [wellFormed_object] at hu hv hw
        refine (equal_object_iff hu.1 hw.1).mpr fun key => ?_
        refine rel_comp (hfirst key) (hsecond key) fun a ha b hb c hc => ?_
        have hmem := Fields.mem_of_lookup ha
        exact ih _ hmem (hu.2 _ hmem) (hv.2 _ (Fields.mem_of_lookup hb))
          (hw.2 _ (Fields.mem_of_lookup hc))
  | _ =>
    cases equalForm_of_equal hu hv huv
    exact hvw

theorem equal_self_iff {v : Value} (hv : v.WellFormed) :
    v.equal v = true ↔ ¬Part (number .nan) v := by
  induction v with
  | number n =>
    have hequal : (number n).equal (number n) = n.equal n := rfl
    rw [hequal, Number.equal_self_iff]
    constructor
    · rintro hn ⟨⟩
      cases hn
    · intro hpart
      cases n with
      | nan => exact absurd (.self _) hpart
      | _ => rfl
  | array items ih =>
    rw [wellFormed_array] at hv
    have hnan : number .nan ≠ array items := nofun
    rw [equal_array_iff, List.forall₂_same, part_array_iff, or_iff_right hnan, not_exists]
    exact forall_congr' fun v => by
      rw [not_and]
      exact forall_congr' fun hmem => ih v hmem (hv v hmem)
  | object fields ih =>
    rw [wellFormed_object] at hv
    have hnan : number .nan ≠ object fields := nofun
    rw [equal_object_iff hv.1 hv.1, part_object_iff, or_iff_right hnan]
    constructor
    · rintro h ⟨⟨key, v⟩, hmem, hpart⟩
      have hkey := h key
      rw [Fields.lookup_of_mem hv.1 hmem, Option.rel_some_some] at hkey
      exact (ih _ hmem (hv.2 _ hmem)).mp hkey hpart
    · intro h key
      cases hkey : fields.lookup key with
      | none => exact .none
      | some v =>
        have hmem := Fields.mem_of_lookup hkey
        exact .some ((ih _ hmem (hv.2 _ hmem)).mpr fun hpart => h ⟨_, hmem, hpart⟩)
  | _ =>
    constructor
    · intro _ hpart
      cases hpart
    · simp [equal]

theorem equal_object_iff_keys {fields others : List (String × Value)}
    (hfields : (Fields.keys fields).Nodup) (hothers : (Fields.keys others).Nodup) :
    (object fields).equal (object others) = true ↔
      (∀ key, key ∈ Fields.keys fields ↔ key ∈ Fields.keys others) ∧
        ∀ key v w, fields.lookup key = some v → others.lookup key = some w → v.equal w = true := by
  rw [equal_object_iff hfields hothers, ← forall_and]
  refine forall_congr' fun key => ?_
  rw [Fields.mem_keys_iff, Fields.mem_keys_iff]
  cases fields.lookup key <;> cases others.lookup key <;> simp

/-! What is asked of values apart from equality. -/

theorem magnitude_eq_of_equal {v w : Value} (hv : v.WellFormed) (hw : w.WellFormed)
    (h : v.equal w = true) : v.magnitude = w.magnitude := by
  induction v generalizing w with
  | number a =>
    cases equalForm_of_equal hv hw h with
    | same => rfl
    | number hab =>
      rw [magnitude, magnitude, numberMagnitude, numberMagnitude, Number.wholeMagnitude,
        Number.wholeMagnitude, Number.position_eq hab]
  | array items ih =>
    cases equalForm_of_equal hv hw h with
    | same => rfl
    | array hitems =>
      rw [wellFormed_array] at hv hw
      have hsizes := forall₂_imp hitems fun v hmem w hmem' =>
        ih v hmem (hv v hmem) (hw w hmem')
      rw [magnitude, magnitude, magnitudes_eq_map, magnitudes_eq_map]
      rw [map_eq_of_forall₂ hsizes fun _ _ _ heq => heq]
  | object fields ih =>
    cases equalForm_of_equal hv hw h with
    | same => rfl
    | object hfields =>
      rw [wellFormed_object] at hv hw
      rw [magnitude, magnitude, fieldMagnitudes_eq_map, fieldMagnitudes_eq_map]
      refine boundedSum_perm (Fields.map_values_perm hv.1 hw.1 fun key => ?_)
      refine rel_imp (hfields key) fun v hfield w hother => ?_
      have hmem := Fields.mem_of_lookup hfield
      exact ih _ hmem (hv.2 _ hmem) (hw.2 _ (Fields.mem_of_lookup hother))
  | _ =>
    cases equalForm_of_equal hv hw h
    rfl

theorem length?_eq_of_equal {v w : Value} (hv : v.WellFormed) (hw : w.WellFormed)
    (h : v.equal w = true) : v.length? = w.length? := by
  cases equalForm_of_equal hv hw h with
  | array hitems => exact congrArg some hitems.length_eq
  | _ => rfl

theorem type?_eq_of_equal {v w : Value} (hv : v.WellFormed) (hw : w.WellFormed)
    (h : v.equal w = true) : v.type? = w.type? := by
  cases equalForm_of_equal hv hw h <;> rfl

theorem isTruthy_eq_of_equal {v w : Value} (hv : v.WellFormed) (hw : w.WellFormed)
    (h : v.equal w = true) : v.isTruthy = w.isTruthy := by
  cases equalForm_of_equal hv hw h with
  | number hab =>
    rw [isTruthy, isTruthy, Number.isZero, Number.isZero, Number.isNaN_eq_isNone,
      Number.isNaN_eq_isNone, Number.position_eq hab]
  | _ => rfl

/-- Equality of values, with distinct keys in every object: it is symmetric and transitive,
and a value without NaN in it is equal to itself; objects are compared key by key and
arrays element by element; and equal values have the same size, length, type and truth. -/
theorem equal_is_partial_equivalence {u v w : Value} (hu : u.WellFormed) (hv : v.WellFormed)
    (hw : w.WellFormed) :
    (u.equal v = true → v.equal u = true) ∧
      (u.equal v = true → v.equal w = true → u.equal w = true) ∧
      (u.equal u = true ↔ ¬Part (number .nan) u) ∧
      (∀ fields others, u = object fields → v = object others →
        (u.equal v = true ↔
          (∀ key, key ∈ Fields.keys fields ↔ key ∈ Fields.keys others) ∧
            ∀ key x y, fields.lookup key = some x → others.lookup key = some y →
              x.equal y = true)) ∧
      (∀ items others, u = array items → v = array others →
        (u.equal v = true ↔ List.Forall₂ (fun x y => x.equal y = true) items others)) ∧
      (u.equal v = true →
        u.magnitude = v.magnitude ∧ u.length? = v.length? ∧ u.type? = v.type? ∧
          u.isTruthy = v.isTruthy) := by
  refine ⟨fun h => equal_comm hu hv ▸ h, equal_trans hu hv hw, equal_self_iff hu, ?_, ?_, ?_⟩
  · rintro fields others rfl rfl
    exact equal_object_iff_keys (wellFormed_object.mp hu).1 (wellFormed_object.mp hv).1
  · rintro items others rfl rfl
    exact equal_array_iff
  · intro h
    exact ⟨magnitude_eq_of_equal hu hv h, length?_eq_of_equal hu hv h, type?_eq_of_equal hu hv h,
      isTruthy_eq_of_equal hu hv h⟩

/-- Keys in another order and the other zero, both within an array. -/
theorem reordered_equal_values :
    let instant : Value := .date ⟨59, 1500000000, by decide, by decide⟩
    let zero : Value := number (.ofInt 0)
    let inner : Value := object [("x", zero), ("f", predicate ⟨3⟩)]
    let inner' : Value := object [("f", predicate ⟨3⟩), ("x", number (.negate (.ofInt 0)))]
    let u : Value := object [("a", array [instant, inner]), ("b", string "é")]
    let v : Value := object [("b", string "é"), ("a", array [instant, inner'])]
    u.WellFormed ∧ v.WellFormed ∧ u.equal v = true ∧ v.equal u = true ∧ u.equal u = true ∧
      u.magnitude = v.magnitude := by
  intro instant zero inner inner' u v
  have hu : u.WellFormed := by
    simp [u, instant, inner, zero, WellFormed, FieldsWellFormed, AllWellFormed, Fields.keys]
  have hv : v.WellFormed := by
    simp [v, instant, inner', WellFormed, FieldsWellFormed, AllWellFormed, Fields.keys]
  have huv : u.equal v = true := by decide +kernel
  obtain ⟨hsymm, -, -, -, -, hsame⟩ := equal_is_partial_equivalence hu hv hu
  obtain ⟨-, htrans, -⟩ := equal_is_partial_equivalence hu hv hu
  exact ⟨hu, hv, huv, hsymm huv, htrans huv (hsymm huv), (hsame huv).1⟩

end Value
end DocQuery
