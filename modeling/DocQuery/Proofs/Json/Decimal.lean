import DocQuery.Number.Text
import DocQuery.Proofs.Json.Token
import DocQuery.Proofs.Number

/-!
Reading decimals with a point or an exponent. Digits before and after the point are put together
as a significand, and the exponent is lowered by the number of those after it; a written exponent is
added. So the text that JSON has for a decimal, with a point or with an exponent, is read as its
digits and its exponent, and these are scaled.
-/

namespace DocQuery.Json.Reading

variable {α : Type} {negative : Bool} {rest : List Char} {n : Number}

theorem get_apply (text : List Char) : (get : Reading (List Char)) text = .ok (text, text) := rfl

def withSign (negative : Bool) (n : Number) : Number := if negative then n.negate else n

theorem scaled_apply {significand : Nat} {exponent : Int} (h : scale significand exponent = some n) :
    scaled negative significand exponent rest = .ok (withSign negative n, rest) := by
  rw [scaled, h]
  rfl

def exponentSuffix (e : Int) : List Char :=
  (if e < 0 then '-' else '+') :: Numeral.decimal e.natAbs

theorem exponentPart_signed {significand k : Nat} {exponent : Int} {below : Bool}
    (hk : k < exponentLimit) (hrest : Stops rest)
    (h : scale significand (exponent + Number.signed below k) = some n) :
    exponentPart negative significand exponent
      ((if below then '-' else '+') :: (Numeral.decimal k ++ rest)) =
        .ok (withSign negative n, rest) := by
  have hdigits := hrest.takeWhile_append fun c => Numeral.isDigit_of_mem_decimal (n := k)
  have hempty : (Numeral.decimal k).isEmpty = false := by simpa using Numeral.decimal_ne_nil k
  have hset (text : List Char) : (set rest : Reading PUnit) text = .ok ((), rest) := rfl
  rw [exponentPart, bind_apply (get_apply _)]
  cases below
  all_goals
    simp only [if_true, Bool.false_eq_true, if_false, hdigits, hempty, List.drop_left]
    rw [bind_apply (hset _), Numeral.value_decimal, if_neg (Nat.not_le.mpr hk)]
    exact scaled_apply h

theorem exponentPart_suffix {significand : Nat} {exponent e : Int} (he : e.natAbs < exponentLimit)
    (hrest : Stops rest) (h : scale significand (exponent + e) = some n) :
    exponentPart negative significand exponent (exponentSuffix e ++ rest) =
      .ok (withSign negative n, rest) := by
  rw [← Number.signed_natAbs e] at h
  have hread : exponentPart negative _ _ _ = _ := exponentPart_signed he hrest h
  simp only [decide_eq_true_eq] at hread
  exact hread

/-- Digits after a point join the significand. -/
theorem places_apply {digits : List Char} {significand : Nat} {exponent : Int}
    (hdigits : ∀ c ∈ digits, Numeral.isDigit c = true) (hne : digits ≠ [])
    (hfits : digits.foldl (fun n c => n * 10 + (c.toNat - 48)) significand < significandLimit)
    (hrest : Numeral.EndsDigits rest) :
    places negative significand exponent (digits ++ rest) =
      afterPlaces negative (digits.foldl (fun n c => n * 10 + (c.toNat - 48)) significand)
        (exponent - digits.length) rest := by
  have htake := Numeral.takeWhile_digits_append hdigits hrest
  have hempty : digits.isEmpty = false := by simpa using hne
  have hset (text : List Char) : (set rest : Reading PUnit) text = .ok ((), rest) := rfl
  rw [places, bind_apply (get_apply _)]
  simp only [htake, absorb_eq hfits, hempty, Bool.false_eq_true, if_false, List.drop_left]
  rw [bind_apply (hset _), List.length_nil, Nat.sub_zero]

theorem afterPlaces_stops {significand : Nat} {exponent : Int} (hrest : Stops rest)
    (h : scale significand exponent = some n) :
    afterPlaces negative significand exponent rest = .ok (withSign negative n, rest) := by
  rw [afterPlaces, bind_apply (get_apply _)]
  split
  · exact absurd rfl (hrest _ rfl).2.2.1
  · exact absurd rfl (hrest _ rfl).2.2.2
  · exact scaled_apply h

theorem afterPlaces_exponent {significand : Nat} {exponent e : Int} (he : e.natAbs < exponentLimit)
    (hrest : Stops rest) (h : scale significand (exponent + e) = some n) :
    afterPlaces negative significand exponent
      ('e' :: (exponentSuffix e ++ rest)) = .ok (withSign negative n, rest) := by
  rw [afterPlaces, bind_apply (get_apply _)]
  refine (bind_apply rfl).trans ?_
  exact exponentPart_suffix he hrest h

/-- The digits before a point, or before the letter of an exponent, are taken as a significand. -/
theorem number_continued (b : Builder α) {whole text : List Char} {m : Number} {c : Char}
    {next : Bool → Nat → Int → Reading Number}
    (hnext : (c = '.' ∧ next = places) ∨ (c = 'e' ∧ next = exponentPart))
    (hdigits : ∀ c ∈ whole, Numeral.isDigit c = true) (hne : whole ≠ [])
    (hleading : ¬(whole.head? = some '0' ∧ 1 < whole.length))
    (hfits : Numeral.value whole < significandLimit)
    (h : next negative (Numeral.value whole) 0 text = .ok (m, rest)) :
    number b negative (whole ++ c :: text) = .ok (b.float m, rest) := by
  have hc : Numeral.isDigit c = false := by rcases hnext with ⟨rfl, -⟩ | ⟨rfl, -⟩ <;> decide
  have htake := Numeral.takeWhile_digits_append hdigits (Numeral.endsDigits_cons hc text)
  have hempty : whole.isEmpty = false := by simpa using hne
  have habsorb : absorb 0 whole = (Numeral.value whole, []) := absorb_eq hfits
  rw [number, bind_apply (get_apply _)]
  simp only [htake, hempty, Bool.false_eq_true, if_false, if_neg hleading, habsorb, List.drop_left]
  rcases hnext with ⟨rfl, rfl⟩ | ⟨rfl, rfl⟩
  all_goals
    refine (bind_apply rfl).trans ?_
    exact bind_apply h

/-! Texts of decimals. -/

/-- The text is read as a number with this significand and this exponent, after any sign. -/
def ReadsScaled (text : List Char) (significand : Nat) (exponent : Int) : Prop :=
  ∀ ⦃α : Type⦄ (b : Builder α) (negative : Bool) ⦃n : Number⦄ ⦃rest : List Char⦄, Stops rest →
    scale significand exponent = some n →
      number b negative (text ++ rest) = .ok (b.float (withSign negative n), rest)

theorem value_append (whole places : List Char) : Numeral.value (whole ++ places) =
    places.foldl (fun n c => n * 10 + (c.toNat - 48)) (Numeral.value whole) :=
  List.foldl_append

theorem value_le_append (whole places : List Char) :
    Numeral.value whole ≤ Numeral.value (whole ++ places) := by
  rw [value_append]
  exact le_foldl_digits places _

section Texts

variable {whole places : List Char} (hwhole : ∀ c ∈ whole, Numeral.isDigit c = true) (hne : whole ≠ [])
  (hleading : ¬(whole.head? = some '0' ∧ 1 < whole.length))
include hwhole hne hleading

theorem readsScaled_exponent {e : Int} (he : e.natAbs < exponentLimit)
    (hfits : Numeral.value whole < significandLimit) :
    ReadsScaled (whole ++ 'e' :: exponentSuffix e) (Numeral.value whole) e := by
  intro α b negative n rest hrest hscale
  rw [← Int.zero_add e] at hscale
  rw [List.append_assoc, List.cons_append]
  exact number_continued b (Or.inr ⟨rfl, rfl⟩) hwhole hne hleading hfits
    (exponentPart_suffix he hrest hscale)

variable (hplaces : ∀ c ∈ places, Numeral.isDigit c = true) (hplacesne : places ≠ [])
  (hfits : Numeral.value (whole ++ places) < significandLimit)
include hplaces hplacesne hfits

/-- What comes after the places decides on the number. -/
theorem number_places {α : Type} (b : Builder α) {negative : Bool} {rest rest' : List Char}
    {n : Number} (hrest : Numeral.EndsDigits rest)
    (h : afterPlaces negative (Numeral.value (whole ++ places)) (-places.length) rest =
      .ok (n, rest')) :
    number b negative (whole ++ '.' :: (places ++ rest)) = .ok (b.float n, rest') := by
  have hlt := Nat.lt_of_le_of_lt (value_le_append whole places) hfits
  rw [value_append] at hfits h
  apply number_continued b (Or.inl ⟨rfl, rfl⟩) hwhole hne hleading hlt
  rw [places_apply hplaces hplacesne hfits hrest, Int.zero_sub]
  exact h

theorem readsScaled_point :
    ReadsScaled (whole ++ '.' :: places) (Numeral.value (whole ++ places)) (-places.length) := by
  intro α b negative n rest hrest hscale
  rw [List.append_assoc, List.cons_append]
  exact number_places hwhole hne hleading hplaces hplacesne hfits b (fun c hc => (hrest c hc).1)
    (afterPlaces_stops hrest hscale)

theorem readsScaled_point_exponent {e : Int} (he : e.natAbs < exponentLimit) :
    ReadsScaled (whole ++ '.' :: (places ++ 'e' :: exponentSuffix e))
      (Numeral.value (whole ++ places)) (-places.length + e) := by
  intro α b negative n rest hrest hscale
  rw [List.append_assoc, List.cons_append, List.append_assoc, List.cons_append]
  exact number_places hwhole hne hleading hplaces hplacesne hfits b
    (Numeral.endsDigits_cons (by decide) _) (afterPlaces_exponent he hrest hscale)

end Texts

/-! The text that JSON has for a decimal. -/

theorem sign_integer (e : Int) :
    (if DecimalStyle.json.exponentPlus && decide (0 ≤ e) then ['+'] else []) ++ Numeral.integer e =
      exponentSuffix e := by
  rw [exponentSuffix, Numeral.integer]
  by_cases hneg : e < 0
  · rw [if_pos hneg, if_pos hneg, decide_eq_false (Int.not_le.mpr hneg), Bool.and_false]
    rfl
  · rw [if_neg hneg, if_neg hneg, decide_eq_true (Int.not_lt.mp hneg), Bool.and_true]
    rfl

section Decimals

variable {digits : List Char} (hdigits : ∀ c ∈ digits, Numeral.isDigit c = true) (hne : digits ≠ [])
  (hleading : ¬(digits.head? = some '0' ∧ 1 < digits.length))
  (hfits : Numeral.value digits < significandLimit)
include hdigits hne hfits

/-- All digits are places if there are not more of them; zeros fill up what is missing. -/
theorem readsScaled_below_one {count : Nat} (hcount : digits.length ≤ count) :
    ReadsScaled ('0' :: '.' :: (List.replicate (count - digits.length) '0' ++ digits))
      (Numeral.value digits) (-count) := by
  have hplaces : ∀ c ∈ List.replicate (count - digits.length) '0' ++ digits,
      Numeral.isDigit c = true := by
    intro c hc
    rcases List.mem_append.mp hc with hzero | hdigit
    · rw [List.eq_of_mem_replicate hzero]
      decide
    · exact hdigits c hdigit
  have hvalue : Numeral.value (['0'] ++ (List.replicate (count - digits.length) '0' ++ digits)) =
      Numeral.value digits := by
    rw [← Numeral.value_zeros_append (count - digits.length) digits]
    rfl
  have hlength : (List.replicate (count - digits.length) '0' ++ digits).length = count := by
    rw [List.length_append, List.length_replicate]
    omega
  have hread := readsScaled_point (List.forall_mem_singleton.mpr (by decide))
    (List.cons_ne_nil '0' []) (by decide) hplaces (List.append_ne_nil_of_right_ne_nil _ hne)
    (hvalue.symm ▸ hfits)
  rwa [hvalue, hlength] at hread

include hleading

theorem readsScaled_positionalText {count : Nat} (hcount : 0 < count) :
    ReadsScaled (Decimal.positionalText .json digits (-count)) (Numeral.value digits) (-count) := by
  have hnegated : (-(-(count : Int))).toNat = count := by omega
  rw [Decimal.positionalText, if_neg (by omega), hnegated]
  simp only
  split
  · rename_i hinside
    have hwhole : ∀ c ∈ digits.take (digits.length - count), Numeral.isDigit c = true :=
      fun c hc => hdigits c (List.mem_of_mem_take hc)
    have hplaces : ∀ c ∈ digits.drop (digits.length - count), Numeral.isDigit c = true :=
      fun c hc => hdigits c (List.mem_of_mem_drop hc)
    have hlength : (digits.drop (digits.length - count)).length = count := by
      rw [List.length_drop]
      omega
    have hlength' : (digits.take (digits.length - count)).length = digits.length - count :=
      List.length_take_of_le (Nat.sub_le _ _)
    have hhead : ¬((digits.take (digits.length - count)).head? = some '0' ∧
        1 < (digits.take (digits.length - count)).length) := by
      rw [List.head?_take, if_neg (by omega), hlength']
      exact fun h => hleading ⟨h.1, by omega⟩
    have hread := readsScaled_point hwhole (List.ne_nil_of_length_pos (by omega)) hhead hplaces
      (List.ne_nil_of_length_pos (by omega)) (by rwa [List.take_append_drop])
    rwa [List.take_append_drop, hlength] at hread
  · rename_i hbelow
    exact readsScaled_below_one hdigits hne hfits (Nat.not_lt.mp hbelow)

/-- One digit comes before the point; a single digit has no point. -/
theorem readsScaled_exponentText {leading : Int} (hlimit : leading.natAbs < exponentLimit) :
    ReadsScaled (Decimal.exponentText .json digits leading) (Numeral.value digits)
      (leading + 1 - digits.length) := by
  unfold Decimal.exponentText
  simp only
  rw [sign_integer]
  match digits with
  | [] => exact absurd rfl hne
  | [first] =>
    have hexponent : leading + 1 - ([first].length : Int) = leading := by simp
    rw [hexponent]
    exact readsScaled_exponent hdigits hne hleading hlimit hfits
  | first :: second :: others =>
    obtain ⟨hfirst, hothers⟩ := List.forall_mem_cons.mp hdigits
    have hexponent : leading + 1 - ((first :: second :: others).length : Int) =
        -((second :: others).length : Int) + leading := by
      rw [List.length_cons]
      omega
    rw [hexponent]
    have hread := readsScaled_point_exponent (List.forall_mem_singleton.mpr hfirst)
      (List.cons_ne_nil first []) (by simp) hothers (List.cons_ne_nil second others) hfits hlimit
    exact hread

end Decimals

/-- The text of a decimal has its digits and its exponent, with a point as well as with an exponent.
Left out is the text that ends in `.0`, where zeros are added to the digits. -/
theorem readsScaled_text {d : Decimal} (hpos : 0 < d.digits) (hfits : d.digits < significandLimit)
    (hexponent : d.exponent.natAbs ≤ 2 * powerLimit)
    (hplaces : d.exponent < 0 ∨ 16 < (Numeral.decimal d.digits).length + d.exponent) :
    ReadsScaled (d.text .json) d.digits d.exponent := by
  have hdigits : ∀ c ∈ Numeral.decimal d.digits, Numeral.isDigit c = true :=
    fun c => Numeral.isDigit_of_mem_decimal
  have hne := Numeral.decimal_ne_nil d.digits
  have hleading := Numeral.decimal_leading d.digits
  have hvalue := Numeral.value_decimal d.digits
  have hlength : (Numeral.decimal d.digits).length ≤ 20 :=
    Numeral.length_decimal_le (by decide) (Nat.lt_trans hfits (by decide))
  have hstyle : DecimalStyle.json.positional = some (-5, 16) := rfl
  rw [← hvalue] at hfits
  unfold Decimal.text
  simp only [hstyle]
  generalize Numeral.decimal d.digits = digits at *
  split
  · rename_i hpositional
    obtain ⟨count, hcount, hcountpos⟩ : ∃ count : Nat, d.exponent = -count ∧ 0 < count :=
      ⟨d.exponent.natAbs, by omega, by omega⟩
    have hread := readsScaled_positionalText hdigits hne hleading hfits hcountpos
    rwa [← hcount, hvalue] at hread
  · have hlimit : (d.exponent + digits.length - 1).natAbs < exponentLimit := by
      unfold powerLimit at hexponent
      unfold exponentLimit
      omega
    have hread := readsScaled_exponentText hdigits hne hleading hfits hlimit
    have hsame : d.exponent + digits.length - 1 + 1 - digits.length = d.exponent := by omega
    rwa [hvalue, hsame] at hread

end DocQuery.Json.Reading
