import DocQuery.Proofs.Json.Float
import DocQuery.Proofs.Json.Token
import Mathlib.Data.List.Forall2

/-!
Reading for two builders at once. The reader hands the parts of a document on and never
looks at what is made of them, so what it does with a text is the same for every builder:
it takes the same characters and is at fault in the same way, and the results are related
by whatever relation the two builders keep. Of the parts it is known that integers fit 64
bits, that all other numbers are finite, and that the keys of an object are distinct.
-/

namespace DocQuery.Json

variable {α β γ δ : Type}

/-- Both are at fault in the same way, or both have results, which are related. -/
inductive Abreast (R : α → β → Prop) : Except Fault α → Except Fault β → Prop
  | fault (e : Fault) : Abreast R (.error e) (.error e)
  | result {a : α} {b : β} (h : R a b) : Abreast R (.ok a) (.ok b)

namespace Reading

/-- The readings take the same from every text, and make related results of it. -/
def Together (R : α → β → Prop) (x : Reading α) (y : Reading β) : Prop :=
  ∀ text, Abreast (fun p q => R p.1 q.1 ∧ p.2 = q.2) (x text) (y text)

namespace Together

variable {R : α → β → Prop} {S : γ → δ → Prop} {x : Reading α} {y : Reading β}

theorem pure {a : α} {b : β} (h : R a b) : Together R (Pure.pure a) (Pure.pure b) := fun _ =>
  .result ⟨h, rfl⟩

theorem throw (e : Fault) : Together R (MonadExcept.throw e) (MonadExcept.throw e) := fun _ =>
  .fault e

theorem bind {f : α → Reading γ} {g : β → Reading δ} (h : Together R x y)
    (hfg : ∀ a b, R a b → Together S (f a) (g b)) : Together S (x >>= f) (y >>= g) := by
  intro text
  have hstep := h text
  change Abreast _ (x text >>= fun p => f p.1 p.2) (y text >>= fun q => g q.1 q.2)
  generalize x text = p at hstep
  generalize y text = q at hstep
  cases hstep with
  | fault e => exact .fault e
  | @result p q hpq =>
    obtain ⟨a, rest⟩ := p
    obtain ⟨b, rest'⟩ := q
    obtain ⟨hresult, rfl⟩ : R a b ∧ rest = rest' := hpq
    exact hfg a b hresult rest

theorem refl (x : Reading α) : Together Eq x x := by
  intro text
  generalize x text = p
  cases p with
  | error e => exact .fault e
  | ok p => exact .result ⟨rfl, rfl⟩

theorem seq {f : α → Reading γ} {g : α → Reading δ} (x : Reading α)
    (hfg : ∀ a, Together S (f a) (g a)) : Together S (x >>= f) (x >>= g) :=
  (refl x).bind fun a _ hab => hab ▸ hfg a

end Together

/-- Whatever the reading gives has the property. -/
def Gives (P : α → Prop) (x : Reading α) : Prop := Together (fun a b => a = b ∧ P a) x x

namespace Gives

variable {P : α → Prop}

theorem pure {a : α} (h : P a) : Gives P (Pure.pure a) := Together.pure ⟨rfl, h⟩

theorem throw (e : Fault) : Gives P (MonadExcept.throw e) := Together.throw e

theorem seq {f : β → Reading α} (x : Reading β) (hf : ∀ b, Gives P (f b)) : Gives P (x >>= f) :=
  Together.seq x hf

end Gives

/-! The numbers that are made of a significand and a power of ten. -/

theorem gives_scaled {significand : Nat} (h : significand < significandLimit) (negative : Bool)
    (exponent : Int) :
    Gives (fun n => n.isFinite = true) (scaled negative significand exponent) := by
  unfold scaled
  cases hscale : scale significand exponent with
  | none => exact .throw _
  | some n =>
    refine .pure ?_
    have hfinite := isFinite_of_scale h hscale
    cases negative with
    | false => exact hfinite
    | true => exact (Number.isFinite_negate n).trans hfinite

theorem gives_exponentPart {significand : Nat} (h : significand < significandLimit) (negative : Bool)
    (exponent : Int) :
    Gives (fun n => n.isFinite = true) (exponentPart negative significand exponent) := by
  unfold exponentPart
  refine .seq _ fun text => ?_
  split
  rename_i below digits _
  dsimp only
  split
  · exact .throw _
  · refine .seq _ fun _ => ?_
    split
    · split
      · exact .throw _
      · refine .pure ?_
        cases negative <;> rfl
    · exact gives_scaled h _ _

theorem gives_afterPlaces {significand : Nat} (h : significand < significandLimit) (negative : Bool)
    (exponent : Int) :
    Gives (fun n => n.isFinite = true) (afterPlaces negative significand exponent) := by
  unfold afterPlaces
  refine .seq _ fun text => ?_
  split
  · exact .seq _ fun _ => gives_exponentPart h _ _
  · exact .seq _ fun _ => gives_exponentPart h _ _
  · exact gives_scaled h _ _

theorem absorb_lt {significand : Nat} (h : significand < significandLimit) (digits : List Char) :
    (absorb significand digits).1 < significandLimit := by
  induction digits generalizing significand with
  | nil => exact h
  | cons c rest ih =>
    rw [absorb]
    split
    · rename_i hextended
      exact ih hextended
    · exact h

theorem gives_places {significand : Nat} (h : significand < significandLimit) (negative : Bool)
    (exponent : Int) :
    Gives (fun n => n.isFinite = true) (places negative significand exponent) := by
  unfold places
  refine .seq _ fun text => ?_
  dsimp only
  split
  · exact .throw _
  · exact .seq _ fun _ => gives_afterPlaces (absorb_lt h _) _ _

end Reading

def Beside (R : α → β → Prop) (f : String × α) (g : String × β) : Prop := f.1 = g.1 ∧ R f.2 g.2

/-- What two builders make of the same part is related; the relation may depend on how many
containers the part has room for. -/
structure Builder.Related (R : Nat → α → β → Prop) (b : Builder α) (c : Builder β) : Prop where
  null : ∀ {room}, R room b.null c.null
  bool : ∀ {room} v, R room (b.bool v) (c.bool v)
  integer : ∀ {room n}, Reading.integerLeast ≤ n → n < Reading.significandLimit →
    R room (b.integer n) (c.integer n)
  float : ∀ {room} {n : Number}, n.isFinite = true → R room (b.float n) (c.float n)
  string : ∀ {room} s, R room (b.string s) (c.string s)
  array : ∀ {room items others}, List.Forall₂ (R room) items others →
    R (room + 1) (b.array items) (c.array others)
  object : ∀ {room fields others}, (Fields.keys fields).Nodup →
    List.Forall₂ (Beside (R room)) fields others →
      R (room + 1) (b.object fields) (c.object others)

namespace Reading

variable {R : Nat → α → β → Prop} {b : Builder α} {c : Builder β}

theorem float_together (h : b.Related R c) {room : Nat} {x : Reading Number}
    (hx : Gives (fun n => n.isFinite = true) x) :
    Together (R room) (x >>= fun n => pure (b.float n)) (x >>= fun n => pure (c.float n)) := by
  refine Together.bind hx ?_
  rintro n _ ⟨rfl, hfinite⟩
  exact .pure (h.float hfinite)

theorem signed_lt {significand : Nat} (h : significand < significandLimit) (negative : Bool) :
    Number.signed negative significand < significandLimit := by
  cases negative with
  | false => exact Int.ofNat_lt.2 h
  | true =>
    rw [Number.signed, if_pos rfl]
    omega

theorem number_together (h : b.Related R c) {room : Nat} (negative : Bool) :
    Together (R room) (number b negative) (number c negative) := by
  unfold number
  refine .seq _ fun text => ?_
  dsimp only
  split
  · exact .throw _
  · split
    · exact .throw _
    · have hbound := absorb_lt (Nat.zero_lt_succ _ : 0 < significandLimit)
        (text.takeWhile Numeral.isDigit)
      generalize List.drop _ text = rest
      split
      · exact .seq _ fun _ => float_together h (gives_places hbound _ _)
      · exact .seq _ fun _ => float_together h (gives_exponentPart hbound _ _)
      · exact .seq _ fun _ => float_together h (gives_exponentPart hbound _ _)
      · refine .seq _ fun _ => ?_
        split
        · exact float_together h (gives_scaled hbound _ _)
        · rename_i hwhole
          obtain ⟨-, hlow⟩ := not_or.1 hwhole
          exact .pure (h.integer (Int.not_lt.1 (not_or.1 hlow).1) (signed_lt hbound negative))

/-! Containers. What has been read already is related element by element. -/

theorem isEmpty_eq_of_forall₂ {R : α → β → Prop} {done : List α} {others : List β}
    (h : List.Forall₂ R done others) : done.isEmpty = others.isEmpty := by
  cases h <;> rfl

theorem elements_together {R : α → β → Prop} {x : Reading α} {y : Reading β} (h : Together R x y)
    (fuel : Nat) {done : List α} {others : List β} (hdone : List.Forall₂ R done others) :
    Together (List.Forall₂ R) (elements x fuel done) (elements y fuel others) := by
  induction fuel generalizing done others with
  | zero => exact .throw _
  | succ fuel ih =>
    unfold elements
    refine .seq _ fun next => ?_
    rw [isEmpty_eq_of_forall₂ hdone]
    split
    · exact .throw _
    · exact .seq _ fun _ => .pure (List.rel_reverse hdone)
    · split
      · exact h.bind fun _ _ hitem => ih (.cons hitem .nil)
      · split
        · refine .seq _ fun _ => .seq _ fun following => ?_
          split
          · exact .throw _
          · exact .throw _
          · exact h.bind fun _ _ hitem => ih (.cons hitem hdone)
        · exact .throw _

theorem field_together {R : α → β → Prop} {x : Reading α} {y : Reading β} (h : Together R x y) :
    Together (Beside R) (field x) (field y) := by
  unfold field
  refine .seq _ fun next => ?_
  split
  · refine .seq _ fun _ => .seq _ fun key => .seq _ fun following => ?_
    split
    · exact .seq _ fun _ => h.bind fun _ _ hitem => .pure ⟨rfl, hitem⟩
    · exact .throw _
    · exact .throw _
  · exact .throw _
  · exact .throw _

theorem fields_together {R : α → β → Prop} {x : Reading α} {y : Reading β} (h : Together R x y)
    (fuel : Nat) {done : List (String × α)} {others : List (String × β)}
    (hdone : List.Forall₂ (Beside R) done others) :
    Together (List.Forall₂ (Beside R)) (fields x fuel done) (fields y fuel others) := by
  induction fuel generalizing done others with
  | zero => exact .throw _
  | succ fuel ih =>
    unfold fields
    refine .seq _ fun next => ?_
    rw [isEmpty_eq_of_forall₂ hdone]
    split
    · exact .throw _
    · exact .seq _ fun _ => .pure (List.rel_reverse hdone)
    · split
      · exact (field_together h).bind fun _ _ hitem => ih (.cons hitem .nil)
      · split
        · exact .seq _ fun _ => (field_together h).bind fun _ _ hitem => ih (.cons hitem hdone)
        · exact .throw _

theorem forall₂_insert {R : α → β → Prop} {key : String} {v : α} {w : β} (hvw : R v w)
    {fields : List (String × α)} {others : List (String × β)}
    (h : List.Forall₂ (Beside R) fields others) :
    List.Forall₂ (Beside R) (Fields.insert key v fields) (Fields.insert key w others) := by
  induction h with
  | nil => exact .cons ⟨rfl, hvw⟩ .nil
  | @cons f g rest rest' hfg hrest ih =>
    obtain ⟨k, a⟩ := f
    obtain ⟨l, b⟩ := g
    obtain ⟨rfl, hab⟩ : k = l ∧ R a b := hfg
    unfold Fields.insert
    split
    · exact .cons ⟨rfl, hvw⟩ hrest
    · exact .cons ⟨rfl, hab⟩ ih

/-- Writing related fields one after the other comes to related objects. -/
theorem forall₂_ofPairs {R : α → β → Prop} {pairs : List (String × α)}
    {others : List (String × β)} (h : List.Forall₂ (Beside R) pairs others) :
    List.Forall₂ (Beside R) (Fields.ofPairs pairs) (Fields.ofPairs others) := by
  suffices hfrom : ∀ {before before'}, List.Forall₂ (Beside R) before before' →
      List.Forall₂ (Beside R) (pairs.foldl (fun fields f => Fields.insert f.1 f.2 fields) before)
        (others.foldl (fun fields g => Fields.insert g.1 g.2 fields) before') from hfrom .nil
  intro before before' hbefore
  induction h generalizing before before' with
  | nil => exact hbefore
  | @cons f g rest rest' hfg _ ih =>
    rw [List.foldl_cons, List.foldl_cons, hfg.1]
    exact ih (forall₂_insert hfg.2 hbefore)

/-- A container is read if there is a way to read what is in it, and leaves less room
for that. -/
theorem valueWith_together (h : b.Related R c) {room : Nat} {inner : Option (Reading α)}
    {other : Option (Reading β)}
    (hinner : Option.Rel (fun x y => ∃ less, room = less + 1 ∧ Together (R less) x y) inner other) :
    Together (R room) (valueWith b inner) (valueWith c other) := by
  unfold valueWith
  refine .seq _ fun next => ?_
  split
  · exact .throw _
  · exact .seq _ fun _ => .seq _ fun _ => .pure h.null
  · exact .seq _ fun _ => .seq _ fun _ => .pure (h.bool true)
  · exact .seq _ fun _ => .seq _ fun _ => .pure (h.bool false)
  · exact .seq _ fun _ => number_together h true
  · exact .seq _ fun _ => .seq _ fun s => .pure (h.string s)
  · cases hinner with
    | none => exact .throw _
    | some hsome =>
      obtain ⟨less, rfl, htogether⟩ := hsome
      refine .seq _ fun _ => .seq _ fun text => ?_
      exact (elements_together htogether _ .nil).bind fun _ _ hitems => .pure (h.array hitems)
  · cases hinner with
    | none => exact .throw _
    | some hsome =>
      obtain ⟨less, rfl, htogether⟩ := hsome
      refine .seq _ fun _ => .seq _ fun text => ?_
      refine (fields_together htogether _ .nil).bind fun _ _ hfields => .pure ?_
      exact h.object (Fields.keys_ofPairs_nodup _) (forall₂_ofPairs hfields)
  · split
    · exact number_together h false
    · exact .throw _

theorem value_together (h : b.Related R c) (room : Nat) :
    Together (R room) (value b room) (value c room) := by
  induction room with
  | zero => exact valueWith_together h .none
  | succ room ih => exact valueWith_together h (.some ⟨room, rfl, ih⟩)

theorem whole_together (h : b.Related R c) (room : Nat) :
    Together (R room) (whole b room) (whole c room) := by
  unfold whole
  refine (value_together h room).bind fun _ _ hresult => .seq _ fun next => ?_
  split
  · exact .pure hresult
  · exact .throw _

end Reading

/-- Two builders whose parts are related make related things of a text, or are both told
of the same fault. -/
theorem read_abreast {R : Nat → α → β → Prop} {b : Builder α} {c : Builder β} (h : b.Related R c)
    (room : Nat) (text : String) : Abreast (R room) (read b room text) (read c room text) := by
  have hwhole := Reading.whole_together h room text.toList
  change Abreast _ (Prod.fst <$> Reading.whole b room text.toList)
    (Prod.fst <$> Reading.whole c room text.toList)
  generalize Reading.whole b room text.toList = x at hwhole
  generalize Reading.whole c room text.toList = y at hwhole
  cases hwhole with
  | fault e => exact .fault e
  | result hresult => exact .result hresult.1

end DocQuery.Json
