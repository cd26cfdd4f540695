import DocQuery.Instant.Reader
import DocQuery.Instant.Text
import DocQuery.Proofs.Numeral
import DocQuery.Proofs.Reading

/-!
How the parts of an instant are read. Numbers of a fixed width are read from their digits, and
so are the decimals of a second, whichever number of them there is. A time of day and the rest
of a date are read by any reader of two digits; the strict form and the loose one differ in
this reader and in the year.
-/

namespace DocQuery.Instant

open Numeral

variable {digits rest : List Char}

theorem le_foldl_utf8Size (text : List Char) (start : Nat) :
    start + text.length ≤ text.foldl (fun length c => length + c.utf8Size) start := by
  induction text generalizing start with
  | nil => exact Nat.le_refl _
  | cons c rest ih =>
    have hrest := ih (start + c.utf8Size)
    have hsize := c.utf8Size_pos
    rw [List.foldl_cons, List.length_cons]
    omega

theorem length_le_utf8Length (text : List Char) : text.length ≤ utf8Length text := by
  have hlength := le_foldl_utf8Size text 0
  rwa [Nat.zero_add] at hlength

/-! Numbers. -/

/-- The part of a text in which the digits of a number may lie. -/
def window (most : Option Nat) (text : List Char) : List Char :=
  match most with
  | some n => text.take n
  | none => text

/-- What a number is read from. -/
def leadingDigits (most : Option Nat) (text : List Char) : List Char :=
  (window most text).takeWhile isDigit

theorem number_eq (least : Nat) (most : Option Nat) (text : List Char) :
    number least most text =
      if utf8Length text < least then .error .tooShort
      else if (leadingDigits most text).length < least then .error .invalid
      else if numberLimit < value (leadingDigits most text) then .error .outOfRange
      else .ok (value (leadingDigits most text), text.drop (leadingDigits most text).length) := rfl

/-- The window is full, or what comes after the digits is none. -/
theorem leadingDigits_append {most : Option Nat} (hdigits : ∀ c ∈ digits, isDigit c = true)
    (hmost : ∀ n, most = some n → digits.length ≤ n)
    (hends : most = some digits.length ∨ EndsDigits rest) :
    leadingDigits most (digits ++ rest) = digits := by
  rcases hends with rfl | hends
  · have htaken := takeWhile_digits_append hdigits endsDigits_nil
    rw [List.append_nil] at htaken
    rw [leadingDigits, window, List.take_left, htaken]
  · cases most with
    | none => exact takeWhile_digits_append hdigits hends
    | some n =>
      rw [leadingDigits, window, List.take_append, List.take_of_length_le (hmost n rfl)]
      refine takeWhile_digits_append hdigits fun c hc => ?_
      rw [List.head?_take] at hc
      split at hc
      · cases hc
      · exact hends c hc

theorem number_digits {least : Nat} {most : Option Nat}
    (hdigits : ∀ c ∈ digits, isDigit c = true) (hleast : least ≤ digits.length)
    (hmost : ∀ n, most = some n → digits.length ≤ n)
    (hends : most = some digits.length ∨ EndsDigits rest) (hlimit : value digits ≤ numberLimit) :
    number least most (digits ++ rest) = .ok (value digits, rest) := by
  have hutf8 := length_le_utf8Length (digits ++ rest)
  rw [List.length_append] at hutf8
  rw [number_eq, leadingDigits_append hdigits hmost hends, if_neg (by omega), if_neg (by omega),
    if_neg (by omega), List.drop_left]

theorem number_fault {least : Nat} {most : Option Nat} (hleast : 0 < least)
    (hends : EndsDigits rest) : ∃ fault, number least most rest = .error fault := by
  have hnone : leadingDigits most rest = [] :=
    leadingDigits_append (List.forall_mem_nil _) (fun _ _ => Nat.zero_le _) (Or.inr hends)
  rw [number_eq, hnone]
  split
  · exact ⟨_, rfl⟩
  · exact ⟨_, if_pos hleast⟩

theorem number_padded {least width n : Nat} {most : Option Nat} (hn : n < 10 ^ width)
    (hwidth : 0 < width) (hleast : least ≤ width) (hmost : ∀ k, most = some k → width ≤ k)
    (hends : most = some width ∨ EndsDigits rest) (hlimit : n ≤ numberLimit) :
    number least most (padded width (decimal n) ++ rest) = .ok (n, rest) := by
  have hdigits : ∀ c ∈ padded width (decimal n), isDigit c = true := fun _ => isDigit_of_mem_padded
  have hlength := length_padded hwidth hn
  have hvalue := value_padded width n
  rw [← hlength] at hleast hmost hends
  have hread := number_digits hdigits hleast hmost hends (hvalue.symm ▸ hlimit)
  rwa [hvalue] at hread

/-- The reader takes two digits. -/
def ReadsPair (part : Reading Nat) : Prop :=
  ∀ {n : Nat}, n < 100 → ∀ rest, EndsDigits rest → part (twoDigits n ++ rest) = .ok (n, rest)

theorem strictPair : ReadsPair (number 2 (some 2)) := by
  intro n hn rest _
  have hlimit : n ≤ numberLimit := Nat.le_trans (Nat.le_of_lt hn) (by decide)
  exact number_padded hn (by decide) (Nat.le_refl 2) (by simp) (Or.inl rfl) hlimit

theorem isWhiteSpace_of_isDigit {c : Char} (h : isDigit c = true) :
    Unicode.isWhiteSpace c = false := by
  obtain ⟨hlow, hhigh⟩ := of_decide_eq_true h
  have hlow' : 48 ≤ c.toNat := hlow
  have hhigh' : c.toNat ≤ 57 := hhigh
  have hnot : ∀ k < 58, 48 ≤ k → Unicode.whiteSpaceRanges.any
      (fun range => range.1 ≤ k && k ≤ range.2) = false := by decide
  exact hnot c.toNat (by omega) hlow'

/-- White space is passed over, and there is none before a character that is none. -/
theorem skip_none {among : Char → Bool} {c : Char} (hc : among c = false) (rest : List Char) :
    skip among (c :: rest) = .ok ((), c :: rest) := by
  rw [skip, List.dropWhile_cons_of_neg (by simp [hc])]

theorem exists_padded_cons (width n : Nat) :
    ∃ c tail, padded width (decimal n) = c :: tail ∧ isDigit c = true := by
  have hne : padded width (decimal n) ≠ [] := by
    rw [padded]
    exact List.append_ne_nil_of_right_ne_nil _ (decimal_ne_nil n)
  obtain ⟨c, tail, hdigits⟩ := List.exists_cons_of_ne_nil hne
  have hmem : c ∈ padded width (decimal n) := by
    rw [hdigits]
    exact List.mem_cons_self
  exact ⟨c, tail, hdigits, isDigit_of_mem_padded hmem⟩

theorem loosePair : ReadsPair (do
    skip Unicode.isWhiteSpace
    number 1 (some 2)) := by
  intro n hn rest hends
  obtain ⟨c, tail, hdigits, hc⟩ := exists_padded_cons 2 n
  have hlimit : n ≤ numberLimit := Nat.le_trans (Nat.le_of_lt hn) (by decide)
  have hread : number 1 (some 2) (twoDigits n ++ rest) = .ok (n, rest) :=
    number_padded hn (by decide) (by decide) (by simp) (Or.inl rfl) hlimit
  have hskip : skip Unicode.isWhiteSpace (twoDigits n ++ rest) = .ok ((), twoDigits n ++ rest) := by
    rw [twoDigits, hdigits]
    exact skip_none (isWhiteSpace_of_isDigit hc) _
  rw [bind_apply hskip, hread]

/-! Times and dates. -/

theorem literal_cons (c : Char) (rest : List Char) : literal c (c :: rest) = .ok ((), rest) :=
  if_pos rfl

theorem bounded_within {low high n : Nat} (hlow : low ≤ n) (hhigh : n ≤ high) (text : List Char) :
    bounded low high n text = .ok ((), text) := by
  rw [bounded, if_pos ⟨hlow, hhigh⟩]
  rfl

/-- The text goes on neither the digits of a second nor its decimals. -/
def EndsSecond (rest : List Char) : Prop := EndsDigits rest ∧ rest.head? ≠ some '.'

theorem fraction_padded {width n : Nat} (hn : n < 10 ^ width) (hwidth : 0 < width)
    (hnine : width ≤ 9) (hrest : EndsDigits rest) :
    fraction ('.' :: padded width (decimal n) ++ rest) = .ok (n * Nat.pow 10 (9 - width), rest) := by
  have hpoint : optional (· == '.') ('.' :: padded width (decimal n) ++ rest) =
      .ok (some '.', padded width (decimal n) ++ rest) := rfl
  have hlimit : n ≤ numberLimit := by
    have hpow : 10 ^ width ≤ 10 ^ 9 := Nat.pow_le_pow_right (by decide) hnine
    unfold numberLimit
    omega
  have hread : number 1 (some 9) (padded width (decimal n) ++ rest) = .ok (n, rest) :=
    number_padded hn hwidth hwidth (by simpa using hnine) (Or.inr hrest) hlimit
  have hget : ∀ text, (get : Reading (List Char)) text = .ok (text, text) := fun _ => rfl
  have hskip : skip isDigit rest = .ok ((), rest) := by
    rw [skip, dropWhile_digits hrest]
  rw [fraction, bind_apply hpoint]
  simp only
  rw [bind_apply (hget _), bind_apply hread, bind_apply (hget _), bind_apply hskip,
    List.length_append, Nat.add_sub_cancel, length_padded hwidth hn]
  rfl

theorem fraction_text {nanos : Nat} (h : nanos < nanosPerSecond) (hrest : EndsSecond rest) :
    fraction (fractionText nanos ++ rest) = .ok (nanos, rest) := by
  have hdigits := hrest.1
  rw [nanosPerSecond] at h
  rw [fractionText]
  split
  · rename_i hzero
    have hpoint : optional (· == '.') rest = .ok (none, rest) := by
      cases rest with
      | nil => rfl
      | cons c tail =>
        refine if_neg fun hc => hrest.2 ?_
        rw [List.head?_cons, eq_of_beq hc]
    rw [List.nil_append, fraction, bind_apply hpoint, hzero]
    rfl
  · split
    · rw [fraction_padded (by omega) (by decide) (by decide) hdigits]
      have hnanos : nanos / 1000000 * Nat.pow 10 (9 - 3) = nanos := by
        change nanos / 1000000 * 1000000 = nanos
        omega
      rw [hnanos]
    · split
      · rw [fraction_padded (by omega) (by decide) (by decide) hdigits]
        have hnanos : nanos / 1000 * Nat.pow 10 (9 - 6) = nanos := by
          change nanos / 1000 * 1000 = nanos
          omega
        rw [hnanos]
      · rw [fraction_padded (by omega) (by decide) (by decide) hdigits]
        have hnanos : nanos * Nat.pow 10 (9 - 9) = nanos := Nat.mul_one nanos
        rw [hnanos]

section Parts

variable {part : Reading Nat} (hpart : ReadsPair part)
include hpart

theorem timeOfDay_text {hour minute second nanos : Nat} (hhour : hour < 24) (hminute : minute < 60)
    (hsecond : second ≤ 60) (hnanos : nanos < nanosPerSecond) (hrest : EndsSecond rest) :
    timeOfDay part (twoDigits hour ++ ':' :: (twoDigits minute ++ ':' ::
        (twoDigits second ++ (fractionText nanos ++ rest)))) =
      .ok ((hour, minute, second, nanos), rest) := by
  have hcolon : ∀ text, EndsDigits (':' :: text) := endsDigits_cons (by decide)
  have hfraction : EndsDigits (fractionText nanos ++ rest) := by
    rw [fractionText]
    split
    · exact hrest.1
    · split
      · exact endsDigits_cons (by decide) _
      · split <;> exact endsDigits_cons (by decide) _
  rw [timeOfDay, bind_apply (hpart (by omega) _ (hcolon _)),
    bind_apply (bounded_within (Nat.zero_le _) (by omega) _), bind_apply (literal_cons _ _),
    bind_apply (hpart (by omega) _ (hcolon _)),
    bind_apply (bounded_within (Nat.zero_le _) (by omega) _), bind_apply (literal_cons _ _),
    bind_apply (hpart (by omega) _ hfraction),
    bind_apply (bounded_within (Nat.zero_le _) (by omega) _),
    bind_apply (fraction_text hnanos hrest)]
  rfl

theorem restOfDate_text {d : CalendarDate} (h : d.Valid) {c : Char} (hc : isDigit c = false) :
    restOfDate part d.year ('-' :: (twoDigits d.month ++ '-' :: (twoDigits d.day ++ c :: rest))) =
      .ok (d, c :: rest) := by
  obtain ⟨hmonth, hmonth', hday, hday'⟩ := h
  have hlength := CalendarDate.monthLength_le d.year d.month
  rw [restOfDate, bind_apply (literal_cons _ _),
    bind_apply (hpart (by omega) _ (endsDigits_cons (by decide) _)),
    bind_apply (bounded_within hmonth hmonth' _), bind_apply (literal_cons _ _),
    bind_apply (hpart (by omega) _ (endsDigits_cons hc _)),
    bind_apply (bounded_within hday (by omega) _)]
  rfl

end Parts

theorem looseYear_signed {sign : Char} (hsign : sign = '-' ∨ sign = '+') {n : Nat}
    (hn : (n : Int) < yearLimit) (hrest : EndsDigits rest) :
    looseYear (sign :: (padded 4 (decimal n) ++ rest)) =
      .ok (Number.signed (sign == '-') n, rest) := by
  have hvalue := value_padded 4 n
  have hfour := le_length_padded 4 n
  have hlimit : n ≤ numberLimit := by
    rw [yearLimit] at hn
    rw [numberLimit]
    omega
  have hskip : skip Unicode.isWhiteSpace (sign :: (padded 4 (decimal n) ++ rest)) = .ok ((), _) :=
    skip_none (by rcases hsign with rfl | rfl <;> decide) _
  have hsome : optional (fun c => c == '-' || c == '+') (sign :: (padded 4 (decimal n) ++ rest)) =
      .ok (some sign, padded 4 (decimal n) ++ rest) :=
    if_pos (by rcases hsign with rfl | rfl <;> decide)
  have hread : number 1 none (padded 4 (decimal n) ++ rest) = .ok (n, rest) := by
    rw [number_digits (fun _ => isDigit_of_mem_padded) (by omega) (fun _ h => by cases h)
      (Or.inr hrest) (hvalue.symm ▸ hlimit), hvalue]
  have hbounds : -yearLimit ≤ Number.signed (sign == '-') n ∧
      Number.signed (sign == '-') n < yearLimit := by
    rw [Number.signed]
    split <;> omega
  rw [looseYear, bind_apply hskip, bind_apply hsome]
  refine (bind_apply hread).trans ((bind_apply rfl).trans ?_)
  simp only
  rw [if_pos hbounds]
  rfl

end DocQuery.Instant
