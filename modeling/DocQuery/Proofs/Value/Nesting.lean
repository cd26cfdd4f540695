import DocQuery.Value.Equality

/-!
Values within values. Arrays hold their elements and objects hold what is in
their fields; the induction principle of this module gives one hypothesis for
each of these, and `Part` is the closure of both steps. `ArrayPart` is that of
the first step alone.
-/

namespace DocQuery.Value

theorem sizeOf_lt_of_mem_fields {field : String × Value} {fields : List (String × Value)}
    (h : field ∈ fields) : sizeOf field.2 < sizeOf fields := by
  have hlt : sizeOf field < sizeOf fields := List.sizeOf_lt_of_mem h
  obtain ⟨key, v⟩ := field
  rw [Prod.mk.sizeOf_spec] at hlt
  change sizeOf v < sizeOf fields
  omega

/-- Whatever passes from elements to arrays and from fields to objects holds of
every value. -/
@[elab_as_elim, induction_eliminator]
theorem induction {motive : Value → Prop} (null : motive null) (bool : ∀ b, motive (bool b))
    (number : ∀ n, motive (number n)) (string : ∀ s, motive (string s))
    (array : ∀ items, (∀ v ∈ items, motive v) → motive (array items))
    (object : ∀ fields, (∀ field ∈ fields, motive field.2) → motive (object fields))
    (undefined : motive undefined) (date : ∀ t, motive (date t)) (regex : ∀ p, motive (regex p))
    (predicate : ∀ p, motive (predicate p)) (v : Value) : motive v :=
  match v with
  | .null => null
  | .bool b => bool b
  | .number n => number n
  | .string s => string s
  | .array items => array items fun w _hw =>
    Value.induction null bool number string array object undefined date regex predicate w
  | .object fields => object fields fun field _hfield =>
    Value.induction null bool number string array object undefined date regex predicate field.2
  | .undefined => undefined
  | .date t => date t
  | .regex p => regex p
  | .predicate p => predicate p
termination_by sizeOf v
decreasing_by
  · have hlt : sizeOf w < sizeOf items := List.sizeOf_lt_of_mem _hw
    rw [Value.array.sizeOf_spec]
    omega
  · have hlt := sizeOf_lt_of_mem_fields _hfield
    rw [Value.object.sizeOf_spec]
    omega

/-- The first value is the second, or is found within it at some depth. -/
inductive Part : Value → Value → Prop
  | self (v : Value) : Part v v
  | item {u v : Value} {items : List Value} (hv : v ∈ items) (h : Part u v) : Part u (array items)
  | field {u : Value} {f : String × Value} {fields : List (String × Value)} (hf : f ∈ fields)
      (h : Part u f.2) : Part u (object fields)

theorem Part.trans {u v w : Value} (huv : Part u v) (hvw : Part v w) : Part u w := by
  induction hvw with
  | self => exact huv
  | item hmem _ ih => exact .item hmem ih
  | field hmem _ ih => exact .field hmem ih

theorem part_array_iff {u : Value} {items : List Value} :
    Part u (array items) ↔ u = array items ∨ ∃ v ∈ items, Part u v := by
  constructor
  · intro h
    cases h with
    | self => exact Or.inl rfl
    | item hv h => exact Or.inr ⟨_, hv, h⟩
  · rintro (rfl | ⟨v, hv, h⟩)
    · exact .self _
    · exact .item hv h

theorem part_object_iff {u : Value} {fields : List (String × Value)} :
    Part u (object fields) ↔ u = object fields ∨ ∃ f ∈ fields, Part u f.2 := by
  constructor
  · intro h
    cases h with
    | self => exact Or.inl rfl
    | field hf h => exact Or.inr ⟨_, hf, h⟩
  · rintro (rfl | ⟨f, hf, h⟩)
    · exact .self _
    · exact .field hf h

/-- The value is an array. -/
def IsArray : Value → Prop
  | .array _ => True
  | _ => False

theorem array_beq_eq_false {v : Value} (hv : ¬v.IsArray) (items : List Value) :
    (array items == v) = false := by
  cases v with
  | array others => exact absurd trivial hv
  | _ => rfl

theorem beq_array_eq_false {v : Value} (hv : ¬v.IsArray) (items : List Value) :
    (v == array items) = false := by
  cases v with
  | array others => exact absurd trivial hv
  | _ => rfl

/-- The first value is the second, or is reached from it through arrays alone. -/
inductive ArrayPart : Value → Value → Prop
  | self (v : Value) : ArrayPart v v
  | item {u v : Value} {items : List Value} (hv : v ∈ items) (h : ArrayPart u v) :
      ArrayPart u (array items)

theorem arrayPart_array_iff {u : Value} {items : List Value} :
    ArrayPart u (array items) ↔ u = array items ∨ ∃ v ∈ items, ArrayPart u v := by
  constructor
  · intro h
    cases h with
    | self => exact Or.inl rfl
    | item hv h => exact Or.inr ⟨_, hv, h⟩
  · rintro (rfl | ⟨v, hv, h⟩)
    · exact .self _
    · exact .item hv h

theorem arrayPart_iff_eq {u v : Value} (hv : ¬v.IsArray) : ArrayPart u v ↔ u = v := by
  constructor
  · intro h
    cases h with
    | self => rfl
    | item => exact absurd trivial hv
  · rintro rfl
    exact .self u

theorem Part.of_get? {v w : Value} {key : String} (h : v.get? key = some w) : Part w v := by
  cases v with
  | object fields =>
    obtain ⟨before, after, hfields, -⟩ := List.lookup_eq_some_iff.1 h
    have hmem : (key, w) ∈ fields := hfields ▸ List.mem_append_right before List.mem_cons_self
    exact .field hmem (.self w)
  | _ => cases h

theorem wellFormed_array {items : List Value} :
    (array items).WellFormed ↔ ∀ v ∈ items, v.WellFormed := by
  rw [WellFormed]
  induction items with
  | nil => simp [AllWellFormed]
  | cons v rest ih => rw [AllWellFormed, ih, List.forall_mem_cons]

theorem wellFormed_object {fields : List (String × Value)} :
    (object fields).WellFormed ↔
      (Fields.keys fields).Nodup ∧ ∀ field ∈ fields, field.2.WellFormed := by
  have hall : FieldsWellFormed fields ↔ ∀ field ∈ fields, field.2.WellFormed := by
    induction fields with
    | nil => simp [FieldsWellFormed]
    | cons field rest ih => rw [FieldsWellFormed, ih, List.forall_mem_cons]
  rw [WellFormed, hall]

theorem WellFormed.part {u v : Value} (hv : v.WellFormed) (h : Part u v) : u.WellFormed := by
  induction h with
  | self => exact hv
  | item hmem _ ih => exact ih (wellFormed_array.1 hv _ hmem)
  | field hmem _ ih => exact ih ((wellFormed_object.1 hv).2 _ hmem)

theorem wellFormed_singleton {key : String} {v : Value} (h : v.WellFormed) :
    (singleton key v).WellFormed := by
  refine wellFormed_object.2 ⟨List.pairwise_singleton _ key, fun field hfield => ?_⟩
  rw [List.mem_singleton.1 hfield]
  exact h

end DocQuery.Value
