import Mathlib.Data.List.Perm.Basic

/-!
Computations that may be refused. A sequence goes through exactly if each of
its steps does, and so does a list; what refuses a list is its first element
that is refused. Two computations are `Alike` if both are refused, for whatever
reasons, or both have results and these are related.
-/

namespace DocQuery

variable {ε α β : Type}

theorem bind_eq_ok {x : Except ε α} {f : α → Except ε β} {b : β} :
    x >>= f = .ok b ↔ ∃ a, x = .ok a ∧ f a = .ok b := by
  cases x with
  | error e =>
    constructor
    · intro h
      cases h
    · rintro ⟨a, ha, -⟩
      cases ha
  | ok a =>
    constructor
    · intro h
      exact ⟨a, rfl, h⟩
    · rintro ⟨_, ⟨⟩, h⟩
      exact h

theorem map_eq_ok {x : Except ε α} {f : α → β} {b : β} :
    x.map f = .ok b ↔ ∃ a, x = .ok a ∧ f a = b := by
  cases x with
  | error e =>
    constructor
    · intro h
      cases h
    · rintro ⟨a, ha, -⟩
      cases ha
  | ok a => simp [Except.map]

theorem mapM_eq_ok {f : α → Except ε β} {as : List α} {bs : List β} :
    as.mapM f = .ok bs ↔ List.Forall₂ (fun a b => f a = .ok b) as bs := by
  induction as generalizing bs with
  | nil =>
    rw [List.mapM_nil, List.forall₂_nil_left_iff]
    constructor
    · intro h
      cases h
      rfl
    · rintro rfl
      rfl
  | cons a rest ih =>
    rw [List.mapM_cons, bind_eq_ok, List.forall₂_cons_left_iff]
    constructor
    · rintro ⟨b, hb, h⟩
      obtain ⟨others, hothers, h⟩ := bind_eq_ok.1 h
      cases h
      exact ⟨b, others, hb, ih.1 hothers, rfl⟩
    · rintro ⟨b, others, hb, hothers, rfl⟩
      exact ⟨b, hb, bind_eq_ok.2 ⟨others, ih.2 hothers, rfl⟩⟩

theorem exists_of_mem_mapM {f : α → Except ε β} {as : List α} {bs : List β}
    (h : as.mapM f = .ok bs) {b : β} (hb : b ∈ bs) : ∃ a ∈ as, f a = .ok b := by
  induction mapM_eq_ok.1 h with
  | nil => cases hb
  | @cons a b' as bs hab hrest ih =>
    rcases List.mem_cons.1 hb with rfl | hb
    · exact ⟨a, List.mem_cons_self, hab⟩
    · obtain ⟨a', ha', hab'⟩ := ih (mapM_eq_ok.2 hrest) hb
      exact ⟨a', List.mem_cons_of_mem a ha', hab'⟩

theorem mapM_congr {f g : α → Except ε β} {as : List α} (h : ∀ a ∈ as, f a = g a) :
    as.mapM f = as.mapM g := by
  induction as with
  | nil => rfl
  | cons a rest ih =>
    obtain ⟨hhead, hrest⟩ := List.forall_mem_cons.1 h
    rw [List.mapM_cons, List.mapM_cons, hhead, ih hrest]

/-- Some result is there for the list exactly if there is one for each element. -/
theorem exists_mapM_eq_ok {f : α → Except ε β} {as : List α} :
    (∃ bs, as.mapM f = .ok bs) ↔ ∀ a ∈ as, ∃ b, f a = .ok b := by
  induction as with
  | nil => exact ⟨fun _ a ha => absurd ha List.not_mem_nil, fun _ => ⟨[], rfl⟩⟩
  | cons a rest ih =>
    rw [List.forall_mem_cons, ← ih]
    constructor
    · rintro ⟨bs, hbs⟩
      obtain ⟨b, others, hb, hothers, rfl⟩ := List.forall₂_cons_left_iff.1 (mapM_eq_ok.1 hbs)
      exact ⟨⟨b, hb⟩, others, mapM_eq_ok.2 hothers⟩
    · rintro ⟨⟨b, hb⟩, others, hothers⟩
      exact ⟨b :: others, mapM_eq_ok.2 (.cons hb (mapM_eq_ok.1 hothers))⟩

/-- Why a computation is refused. -/
def refusal? : Except ε α → Option ε
  | .ok _ => none
  | .error e => some e

theorem refusal?_eq_some {x : Except ε α} {e : ε} : refusal? x = some e ↔ x = .error e := by
  cases x <;> simp [refusal?]

theorem refusal?_eq_none {x : Except ε α} : refusal? x = none ↔ ∃ a, x = .ok a := by
  cases x <;> simp [refusal?]

theorem refusal?_map (x : Except ε α) (f : α → β) : refusal? (x.map f) = refusal? x := by
  cases x <;> rfl

theorem refusal?_mapM (f : α → Except ε β) (as : List α) :
    refusal? (as.mapM f) = as.findSome? fun a => refusal? (f a) := by
  induction as with
  | nil => rfl
  | cons a rest ih =>
    rw [List.mapM_cons, List.findSome?_cons, ← ih]
    cases f a with
    | error e => rfl
    | ok b => cases rest.mapM f <;> rfl

/-- Where each element has its result under a condition and is refused for one and
the same reason otherwise, so is the list, under the conditions of all. -/
theorem mapM_eq_ite {P : β → Prop} [DecidablePred P] {e : ε} {f : α → Except ε β} {as : List α}
    {bs : List β} (h : List.Forall₂ (fun a b => f a = if P b then .ok b else .error e) as bs) :
    as.mapM f = if ∀ b ∈ bs, P b then .ok bs else .error e := by
  induction h with
  | nil =>
    rw [List.mapM_nil, if_pos fun b hb => absurd hb List.not_mem_nil]
    rfl
  | @cons a b as bs hab _ ih =>
    have hall : (∀ x ∈ b :: bs, P x) ↔ P b ∧ ∀ x ∈ bs, P x := List.forall_mem_cons
    rw [List.mapM_cons, hab, ih]
    by_cases hhead : P b
    · by_cases hrest : ∀ x ∈ bs, P x
      · rw [if_pos hhead, if_pos hrest, if_pos (hall.2 ⟨hhead, hrest⟩)]
        rfl
      · have hneg : ¬∀ x ∈ b :: bs, P x := fun h => hrest (hall.1 h).2
        rw [if_pos hhead, if_neg hrest, if_neg hneg]
        rfl
    · have hneg : ¬∀ x ∈ b :: bs, P x := fun h => hhead (hall.1 h).1
      rw [if_neg hhead, if_neg hneg]
      rfl

/-- Both computations are refused, or both have results, which are related. -/
inductive Alike (R : α → β → Prop) : Except ε α → Except ε β → Prop
  | refused (e e' : ε) : Alike R (.error e) (.error e')
  | done {a : α} {b : β} (h : R a b) : Alike R (.ok a) (.ok b)

namespace Alike

variable {R : α → β → Prop} {x : Except ε α} {y : Except ε β}

theorem of_eq {R : α → α → Prop} {x y : Except ε α} (h : x = y) (hR : ∀ a, x = .ok a → R a a) :
    Alike R x y := by
  subst h
  cases x with
  | error e => exact .refused e e
  | ok a => exact .done (hR a rfl)

theorem of_results {x y : Except ε α} (hxy : ∀ a, x = .ok a → y = .ok a)
    (hyx : ∀ a, y = .ok a → x = .ok a) : Alike Eq x y := by
  cases x with
  | ok a =>
    rw [hxy a rfl]
    exact .done rfl
  | error e =>
    cases y with
    | error e' => exact .refused e e'
    | ok b => cases hyx b rfl

/-- Computations whose results are the same under a map are refused alike. -/
theorem of_map_eq {γ : Type} {R : α → β → Prop} {x : Except ε α} {y : Except ε β} {f : α → γ}
    {g : β → γ} (h : x.map f = y.map g)
    (hR : ∀ a b, x = .ok a → y = .ok b → f a = g b → R a b) : Alike R x y := by
  cases x with
  | error e =>
    cases y with
    | error e' => exact .refused e e'
    | ok b => cases h
  | ok a =>
    cases y with
    | error e => cases h
    | ok b => exact .done (hR a b rfl rfl (Except.ok.inj h))

theorem exists_iff (h : Alike R x y) : (∃ a, x = .ok a) ↔ ∃ b, y = .ok b := by
  cases h with
  | refused e e' =>
    constructor
    · rintro ⟨_, ⟨⟩⟩
    · rintro ⟨_, ⟨⟩⟩
  | @done a b h => exact ⟨fun _ => ⟨b, rfl⟩, fun _ => ⟨a, rfl⟩⟩

theorem related (h : Alike R x y) {a : α} {b : β} (hx : x = .ok a) (hy : y = .ok b) : R a b := by
  cases h with
  | refused e e' => cases hx
  | done h =>
    cases hx
    cases hy
    exact h

theorem trans {γ : Type} {S : β → γ → Prop} {z : Except ε γ} (h : Alike R x y)
    (h' : Alike S y z) : Alike (fun a c => ∃ b, R a b ∧ S b c) x z := by
  cases h with
  | refused e e' =>
    cases h' with
    | refused _ e'' => exact .refused e e''
  | done hab =>
    cases h' with
    | done hbc => exact .done ⟨_, hab, hbc⟩

theorem bind {α' β' : Type} {S : α' → β' → Prop} {f : α → Except ε α'} {g : β → Except ε β'}
    (h : Alike R x y) (hfg : ∀ a b, R a b → Alike S (f a) (g b)) :
    Alike S (x >>= f) (y >>= g) := by
  cases h with
  | refused e e' => exact .refused e e'
  | done h => exact hfg _ _ h

theorem map {α' β' : Type} {S : α' → β' → Prop} {f : α → α'} {g : β → β'} (h : Alike R x y)
    (hfg : ∀ a b, R a b → S (f a) (g b)) : Alike S (x.map f) (y.map g) := by
  cases h with
  | refused e e' => exact .refused e e'
  | done h => exact .done (hfg _ _ h)

theorem map_right {β' : Type} {S : α → β' → Prop} {g : β → β'} (h : Alike R x y)
    (hg : ∀ a b, R a b → S a (g b)) : Alike S x (y.map g) := by
  cases h with
  | refused e e' => exact .refused e e'
  | done h => exact .done (hg _ _ h)

theorem mapM {α' β' : Type} {S : α' → β' → Prop} {as : List α} {bs : List β}
    {f : α → Except ε α'} {g : β → Except ε β'} (h : List.Forall₂ R as bs)
    (hfg : ∀ a b, R a b → Alike S (f a) (g b)) :
    Alike (List.Forall₂ S) (as.mapM f) (bs.mapM g) := by
  induction h with
  | nil => exact .done .nil
  | cons hab _ ih =>
    rw [List.mapM_cons, List.mapM_cons]
    refine (hfg _ _ hab).bind fun a' b' hhead => ?_
    exact ih.bind fun as' bs' hrest => .done (.cons hhead hrest)

/-- A list in another order goes through as well, and gives the same results in
another order. -/
theorem mapM_perm {as bs : List α} (h : as.Perm bs) (f : α → Except ε β) :
    Alike List.Perm (as.mapM f) (bs.mapM f) := by
  have hexists : (∃ xs, as.mapM f = .ok xs) ↔ ∃ ys, bs.mapM f = .ok ys := by
    rw [exists_mapM_eq_ok, exists_mapM_eq_ok]
    exact forall_congr' fun a => by rw [h.mem_iff]
  cases hxs : as.mapM f with
  | error e =>
    cases hys : bs.mapM f with
    | error e' => exact .refused e e'
    | ok ys =>
      obtain ⟨xs, hxs'⟩ := hexists.2 ⟨ys, hys⟩
      cases hxs.symm.trans hxs'
  | ok xs =>
    have hresults := mapM_eq_ok.1 hxs
    obtain ⟨ys, hys, hperm⟩ := List.perm_comp_forall₂ h.symm hresults
    rw [mapM_eq_ok.2 hys]
    exact .done hperm.symm

end Alike
end DocQuery
