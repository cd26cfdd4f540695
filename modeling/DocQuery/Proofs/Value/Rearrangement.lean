import DocQuery.Proofs.Statement.Weight
import DocQuery.Proofs.Value.Normalization
import Mathlib.Data.List.Forall2
import Mathlib.Data.Option.Basic

/-!
Values that differ only in the order of object keys, at any depth. What is asked
of a value does not see this order: what is read of both comes out the same or
differs only in such orders again. For equality and for the reading of fields
the keys of an object have to be distinct.
-/

namespace DocQuery

theorem map_eq_of_forall₂ {α β γ : Type} {R : α → β → Prop} {as : List α} {bs : List β}
    (h : List.Forall₂ R as bs) {f : α → γ} {g : β → γ}
    (hfg : ∀ a ∈ as, ∀ b, R a b → f a = g b) : as.map f = bs.map g := by
  induction h with
  | nil => rfl
  | cons hab _ ih =>
    obtain ⟨hhead, hrest⟩ := List.forall_mem_cons.1 hfg
    rw [List.map_cons, List.map_cons, hhead _ hab, ih hrest]

theorem any_eq_of_forall₂ {α β : Type} {R : α → β → Prop} {as : List α} {bs : List β}
    (h : List.Forall₂ R as bs) {f : α → Bool} {g : β → Bool}
    (hfg : ∀ a ∈ as, ∀ b, R a b → f a = g b) : as.any f = bs.any g := by
  have hmap := congrArg (List.any · id) (map_eq_of_forall₂ h hfg)
  simpa only [List.any_map, Function.id_comp] using hmap

theorem all_eq_of_forall₂ {α β : Type} {R : α → β → Prop} {as : List α} {bs : List β}
    (h : List.Forall₂ R as bs) {f : α → Bool} {g : β → Bool}
    (hfg : ∀ a ∈ as, ∀ b, R a b → f a = g b) : as.all f = bs.all g := by
  have hmap := congrArg (List.all · id) (map_eq_of_forall₂ h hfg)
  simpa only [List.all_map, Function.id_comp] using hmap

theorem forall₂_comp {α β γ : Type} {R : α → β → Prop} {S : β → γ → Prop} {T : α → γ → Prop}
    {as : List α} {bs : List β} {cs : List γ} (h : List.Forall₂ R as bs)
    (h' : List.Forall₂ S bs cs)
    (hcomp : ∀ a ∈ as, ∀ b ∈ bs, ∀ c ∈ cs, R a b → S b c → T a c) : List.Forall₂ T as cs := by
  induction h generalizing cs with
  | nil =>
    cases h'
    exact .nil
  | cons hab _ ih =>
    cases h' with
    | cons hbc hrest =>
      refine .cons (hcomp _ List.mem_cons_self _ List.mem_cons_self _ List.mem_cons_self hab hbc) ?_
      exact ih hrest fun a ha b hb c hc =>
        hcomp a (List.mem_cons_of_mem _ ha) b (List.mem_cons_of_mem _ hb) c (List.mem_cons_of_mem _ hc)

theorem forall₂_imp {α β : Type} {R S : α → β → Prop} {as : List α} {bs : List β}
    (h : List.Forall₂ R as bs) (hRS : ∀ a ∈ as, ∀ b ∈ bs, R a b → S a b) : List.Forall₂ S as bs :=
  forall₂_comp (S := Eq) h (List.forall₂_refl bs) fun a ha b hb _ _ hab hbc =>
    hbc ▸ hRS a ha b hb hab

theorem any_eq_of_rel {α β : Type} {R : α → β → Prop} {a : Option α} {b : Option β}
    (h : Option.Rel R a b) {f : α → Bool} {g : β → Bool}
    (hfg : ∀ x, a = some x → ∀ y, R x y → f x = g y) : a.any f = b.any g := by
  cases h with
  | none => rfl
  | some hxy => exact hfg _ rfl _ hxy

theorem rel_imp {α β : Type} {R S : α → β → Prop} {a : Option α} {b : Option β}
    (h : Option.Rel R a b) (hRS : ∀ x, a = some x → ∀ y, b = some y → R x y → S x y) :
    Option.Rel S a b := by
  cases h with
  | none => exact .none
  | some hxy => exact .some (hRS _ rfl _ rfl hxy)

theorem rel_comp {α β γ : Type} {R : α → β → Prop} {S : β → γ → Prop} {T : α → γ → Prop}
    {a : Option α} {b : Option β} {c : Option γ} (h : Option.Rel R a b) (h' : Option.Rel S b c)
    (hcomp : ∀ x, a = some x → ∀ y, b = some y → ∀ z, c = some z → R x y → S y z → T x z) :
    Option.Rel T a c := by
  cases h with
  | none =>
    cases h'
    exact .none
  | some hxy =>
    cases h' with
    | some hyz => exact .some (hcomp _ rfl _ rfl _ rfl hxy hyz)

theorem getD_rel {α β : Type} {R : α → β → Prop} {a : Option α} {b : Option β} {x : α} {y : β}
    (h : Option.Rel R a b) (hxy : R x y) : R (a.getD x) (b.getD y) := by
  cases h with
  | none => exact hxy
  | some h => exact h

theorem lookup_eq_of_perm {α : Type} {fields others : List (String × α)}
    (h : fields.Perm others) (hkeys : (Fields.keys fields).Nodup) (key : String) :
    fields.lookup key = others.lookup key := by
  induction h with
  | nil => rfl
  | cons field _ ih =>
    obtain ⟨k, v⟩ := field
    have hrest := ih (List.nodup_cons.1 hkeys).2
    rw [List.lookup_cons, List.lookup_cons, hrest]
  | swap f g rest =>
    obtain ⟨k, v⟩ := f
    obtain ⟨l, w⟩ := g
    have hne : l ≠ k := List.ne_of_not_mem_cons (List.nodup_cons.1 hkeys).1
    simp only [List.lookup_cons]
    by_cases hk : key = k
    · have hl : key ≠ l := fun hl => hne (hl ▸ hk)
      simp [hk, beq_false_of_ne (hk ▸ hl)]
    · simp [beq_false_of_ne hk]
  | trans hfirst _ ih ih' =>
    have hkeys' := (hfirst.map Prod.fst).nodup_iff.1 hkeys
    rw [ih hkeys, ih' hkeys']

namespace Value

/-- The values differ only in the order of object keys, at any depth. For objects,
`middle` has the fields of the second in the order of the first. -/
inductive Rearranged : Value → Value → Prop
  | same (v : Value) : Rearranged v v
  | array {items others : List Value} (h : List.Forall₂ Rearranged items others) :
    Rearranged (array items) (array others)
  | object {fields middle others : List (String × Value)}
    (hkeys : Fields.keys fields = Fields.keys middle)
    (hvalues : List.Forall₂ Rearranged (fields.map Prod.snd) (middle.map Prod.snd))
    (hperm : middle.Perm others) : Rearranged (object fields) (object others)

def FieldRearranged (f g : String × Value) : Prop := f.1 = g.1 ∧ f.2.Rearranged g.2

theorem forall₂_fieldRearranged {fields middle : List (String × Value)}
    (hkeys : Fields.keys fields = Fields.keys middle)
    (hvalues : List.Forall₂ Rearranged (fields.map Prod.snd) (middle.map Prod.snd)) :
    List.Forall₂ FieldRearranged fields middle := by
  rw [List.forall₂_map_left_iff, List.forall₂_map_right_iff] at hvalues
  induction hvalues with
  | nil => exact .nil
  | cons hv _ ih =>
    obtain ⟨hkey, hrest⟩ := List.cons.inj hkeys
    exact .cons ⟨hkey, hv⟩ (ih hrest)

namespace Rearranged

theorem of_array {items : List Value} {w : Value} (h : (Value.array items).Rearranged w) :
    ∃ others, w = .array others ∧ List.Forall₂ Rearranged items others := by
  cases h with
  | same => exact ⟨items, rfl, List.forall₂_same.2 fun v _ => .same v⟩
  | array h => exact ⟨_, rfl, h⟩

theorem of_object {fields : List (String × Value)} {w : Value}
    (h : (Value.object fields).Rearranged w) :
    ∃ middle others, w = .object others ∧ List.Forall₂ FieldRearranged fields middle ∧
      middle.Perm others := by
  cases h with
  | same =>
    exact ⟨fields, fields, rfl, List.forall₂_same.2 fun f _ => ⟨rfl, .same f.2⟩, .refl fields⟩
  | object hkeys hvalues hperm =>
    exact ⟨_, _, rfl, forall₂_fieldRearranged hkeys hvalues, hperm⟩

variable {v w : Value}

theorem singleton (h : v.Rearranged w) (key : String) :
    (Value.singleton key v).Rearranged (.singleton key w) := by
  have hkeys : Fields.keys [(key, v)] = Fields.keys [(key, w)] := rfl
  exact .object hkeys (.cons h .nil) (.refl _)

theorem swap {k l : String} {v v' w w' : Value} (hv : v.Rearranged v') (hw : w.Rearranged w') :
    (Value.object [(k, v), (l, w)]).Rearranged (.object [(l, w'), (k, v')]) := by
  have hkeys : Fields.keys [(k, v), (l, w)] = Fields.keys [(k, v'), (l, w')] := rfl
  exact .object hkeys (.cons hv (.cons hw .nil)) (.swap _ _ [])

theorem isNullish_eq (h : v.Rearranged w) : v.isNullish = w.isNullish := by
  cases h <;> rfl

theorem isTruthy_eq (h : v.Rearranged w) : v.isTruthy = w.isTruthy := by
  cases h <;> rfl

theorem type?_eq (h : v.Rearranged w) : v.type? = w.type? := by
  cases h <;> rfl

theorem number?_eq (h : v.Rearranged w) : v.number? = w.number? := by
  cases h <;> rfl

theorem length?_eq (h : v.Rearranged w) : v.length? = w.length? := by
  cases h with
  | same | object => rfl
  | array h => exact congrArg some h.length_eq

theorem get?_rel (h : v.Rearranged w) (hv : v.WellFormed) (key : String) :
    Option.Rel Rearranged (v.get? key) (w.get? key) := by
  cases v with
  | object fields =>
    obtain ⟨middle, others, rfl, hfields, hperm⟩ := h.of_object
    have hkeys : Fields.keys fields = Fields.keys middle :=
      map_eq_of_forall₂ hfields fun f _ g hfg => hfg.1
    have hdistinct : (Fields.keys middle).Nodup := hkeys ▸ (wellFormed_object.1 hv).1
    rw [get?, get?, ← lookup_eq_of_perm hperm hdistinct key]
    clear hperm hkeys hdistinct h hv
    induction hfields with
    | nil => exact .none
    | @cons f g _ _ hfg _ ih =>
      obtain ⟨k, v⟩ := f
      obtain ⟨l, w⟩ := g
      obtain ⟨rfl, hvw⟩ := hfg
      rw [List.lookup_cons, List.lookup_cons]
      cases key == k with
      | true => exact .some hvw
      | false => exact ih
  | array items =>
    obtain ⟨others, rfl, -⟩ := h.of_array
    exact .none
  | _ =>
    cases h
    exact .none

end Rearranged

/-! The size of a value. -/

theorem magnitudes_eq_map (items : List Value) : magnitudes items = items.map magnitude := by
  induction items with
  | nil => rfl
  | cons v rest ih => rw [magnitudes, ih, List.map_cons]

theorem fieldMagnitudes_eq_map (fields : List (String × Value)) :
    fieldMagnitudes fields = fields.map fun field => field.2.magnitude := by
  induction fields with
  | nil => rfl
  | cons field rest ih => rw [fieldMagnitudes, ih, List.map_cons]

theorem Rearranged.magnitude_eq {v w : Value} (h : v.Rearranged w) :
    v.magnitude = w.magnitude := by
  induction v generalizing w with
  | array items ih =>
    obtain ⟨others, rfl, hitems⟩ := h.of_array
    rw [magnitude, magnitude, magnitudes_eq_map, magnitudes_eq_map]
    rw [map_eq_of_forall₂ hitems fun v hv w hvw => ih v hv hvw]
  | object fields ih =>
    obtain ⟨middle, others, rfl, hfields, hperm⟩ := h.of_object
    rw [magnitude, magnitude, fieldMagnitudes_eq_map, fieldMagnitudes_eq_map]
    rw [map_eq_of_forall₂ hfields fun f hf g hfg => ih f hf hfg.2]
    exact boundedSum_perm (hperm.map _)
  | _ =>
    cases h
    rfl

theorem Rearranged.normalize {v w : Value} (h : v.Rearranged w) :
    v.normalize.Rearranged w.normalize := by
  induction v generalizing w with
  | array items ih =>
    obtain ⟨others, rfl, hitems⟩ := h.of_array
    rw [normalize_array, normalize_array]
    refine .array ?_
    rw [List.forall₂_map_left_iff, List.forall₂_map_right_iff]
    exact forall₂_imp hitems fun v hv w _ hvw => ih v hv hvw
  | object fields ih =>
    obtain ⟨middle, others, rfl, -, -⟩ := h.of_object
    exact h
  | _ =>
    cases h
    exact .same _

/-! Equality. -/

theorem fieldsWithin_eq_all (fields others : List (String × Value)) :
    fieldsWithin fields others =
      fields.all fun field => (others.lookup field.1).any fun w => field.2.equal w := by
  induction fields with
  | nil => rfl
  | cons field rest ih =>
    obtain ⟨key, v⟩ := field
    rw [fieldsWithin, ih, List.all_cons]
    cases others.lookup key <;> rfl

theorem equalItems_eq {items items' others others' : List Value}
    (hitems : List.Forall₂ Rearranged items items')
    (hothers : List.Forall₂ Rearranged others others') (hwell : ∀ w ∈ others, w.WellFormed)
    (h : ∀ v ∈ items, ∀ v' w w', v.Rearranged v' → w.Rearranged w' → w.WellFormed →
      v.equal w = v'.equal w') :
    equalItems items others = equalItems items' others' := by
  induction hitems generalizing others others' with
  | nil => cases hothers <;> rfl
  | cons hv _ ih =>
    cases hothers with
    | nil => rfl
    | cons hw hothers =>
      obtain ⟨hhead, hrest⟩ := List.forall_mem_cons.1 h
      obtain ⟨hwhead, hwrest⟩ := List.forall_mem_cons.1 hwell
      rw [equalItems, equalItems, hhead _ _ _ hv hw hwhead, ih hothers hwrest hrest]

/-- Equality of values is blind to the order of keys. -/
theorem Rearranged.equal_eq {v v' w w' : Value} (hv : v.Rearranged v') (hw : w.Rearranged w')
    (hwell : w.WellFormed) : v.equal w = v'.equal w' := by
  induction v generalizing v' w w' with
  | array items ih =>
    obtain ⟨items', rfl, hitems⟩ := hv.of_array
    cases w with
    | array others =>
      obtain ⟨others', rfl, hothers⟩ := hw.of_array
      exact equalItems_eq hitems hothers (wellFormed_array.1 hwell)
        fun v hmem v' w w' hv hw hwell => ih v hmem hv hw hwell
    | _ => cases hw <;> rfl
  | object fields ih =>
    obtain ⟨middle, fields', rfl, hfields, hperm⟩ := hv.of_object
    cases w with
    | object others =>
      have hlookup := fun key => hw.get?_rel hwell key
      obtain ⟨middle', others', rfl, hothers, hperm'⟩ := hw.of_object
      have hlength := hfields.length_eq.trans hperm.length_eq
      have hlength' := hothers.length_eq.trans hperm'.length_eq
      rw [equal, equal, hlength, hlength', fieldsWithin_eq_all, fieldsWithin_eq_all]
      rw [← hperm.all_eq, all_eq_of_forall₂ hfields]
      rintro ⟨key, v⟩ hmem ⟨_, v'⟩ ⟨rfl, hvv⟩
      refine any_eq_of_rel (hlookup key) fun w hw w' hww => ?_
      exact ih (key, v) hmem hvv hww (hwell.part (.of_get? hw))
    | _ => cases hw <;> rfl
  | _ =>
    cases hv
    cases hw <;> rfl

end Value
end DocQuery
