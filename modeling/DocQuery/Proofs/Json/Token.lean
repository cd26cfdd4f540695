import DocQuery.Json.Quoted
import DocQuery.Json.Reader
import DocQuery.Proofs.Numeral
import DocQuery.Proofs.Reading

/-!
Reading what stands alone in JSON text: white space, words, strings and whole numbers.
Each is read back from what is written for it, whatever comes after it; only a number
needs to be told where it ends. A text between quotes may be escaped in more than one
way, and all that counts is that the letter which is written for a character is the
one that is read as it.
-/

namespace DocQuery.Json

/-- The letter that is written for a character is read as this character. -/
def LettersRead (letter? : Char → Option Char) : Prop :=
  ∀ c letter rest, letter? c = some letter → Reading.escape (letter :: rest) = .ok (c, rest)

theorem controlLetter?_read : LettersRead controlLetter? := by
  intro c letter rest h
  unfold controlLetter? at h
  split at h
  all_goals first
    | (cases h; done)
    | (cases h; rfl)

namespace Reading

variable {α β : Type}

/-- The text is white space. -/
def IsGap (gap : List Char) : Prop := ∀ c ∈ gap, isSpace c = true

theorem peekSpaced_gap {gap : List Char} (hgap : IsGap gap) {c : Char} (hc : isSpace c = false)
    (rest : List Char) : peekSpaced (gap ++ c :: rest) = .ok (some c, c :: rest) := by
  have hdrop : (gap ++ c :: rest).dropWhile isSpace = c :: rest := by
    rw [List.dropWhile_append_of_pos hgap, List.dropWhile_cons_of_neg (by simp [hc])]
  rw [peekSpaced]
  simp only [hdrop, List.head?_cons]

theorem isGap_nil : IsGap [] := by
  intro c hc
  cases hc

theorem peekSpaced_cons {c : Char} (hc : isSpace c = false) (rest : List Char) :
    peekSpaced (c :: rest) = .ok (some c, c :: rest) :=
  peekSpaced_gap isGap_nil hc rest

/-! Strings. -/

theorem hexValue?_digit {d : Nat} (h : d < 16) : hexValue? (Numeral.digit d) = some d := by
  have hall : ∀ d < 16, hexValue? (Numeral.digit d) = some d := by decide
  exact hall d h

/-- A control character is read from the four digits of its code point. -/
theorem unicodeEscape_padded {c : Char} (h : c.toNat < 32) (rest : List Char) :
    unicodeEscape (Numeral.padded 4 (Numeral.hexadecimal c.toNat) ++ rest) = .ok (c, rest) := by
  have hdigits : Numeral.padded 4 (Numeral.hexadecimal c.toNat) ++ rest =
      '0' :: '0' :: Numeral.digit (c.toNat / 16) :: Numeral.digit (c.toNat % 16) :: rest := by
    rw [Numeral.padded_hexadecimal (by omega)]
    rfl
  have hunit : hexUnit (Numeral.padded 4 (Numeral.hexadecimal c.toNat) ++ rest) =
      .ok (c.toNat, rest) := by
    have hzero : hexValue? '0' = some 0 := by decide
    have hfront := hexValue?_digit (show c.toNat / 16 < 16 by omega)
    have hlast := hexValue?_digit (show c.toNat % 16 < 16 by omega)
    have hvalue : ((0 * 16 + 0) * 16 + c.toNat / 16) * 16 + c.toNat % 16 = c.toNat := by omega
    rw [hdigits]
    simp only [hexUnit, hzero, hfront, hlast, hvalue]
  rw [unicodeEscape, bind_apply hunit, if_neg (by omega), if_pos (by omega), Char.ofNat_toNat]
  rfl

/-- A character between quotes is written either as itself, and then nothing in the
way of strings depends on it, or as an escape that is read as this character. -/
theorem escaped_cases {letter? : Char → Option Char} (h : LettersRead letter?) (c : Char) :
    (escaped letter? c = [c] ∧ c ≠ '"' ∧ c ≠ '\\' ∧ ¬c.toNat < 32) ∨
      ∃ tail, escaped letter? c = '\\' :: tail ∧ ∀ rest, escape (tail ++ rest) = .ok (c, rest) := by
  unfold escaped
  by_cases hquote : c = '"' ∨ c = '\\'
  · refine Or.inr ⟨[c], by rw [if_pos hquote], fun rest => ?_⟩
    rcases hquote with rfl | rfl <;> rfl
  · rw [if_neg hquote]
    rw [not_or] at hquote
    cases hletter : letter? c with
    | some letter => exact Or.inr ⟨[letter], rfl, fun rest => h c letter rest hletter⟩
    | none =>
      by_cases hcontrol : c.toNat < 32
      · refine Or.inr ⟨_, if_pos hcontrol, fun rest => ?_⟩
        exact unicodeEscape_padded hcontrol rest
      · exact Or.inl ⟨if_neg hcontrol, hquote.1, hquote.2, hcontrol⟩

theorem escaped_ne_nil {letter? : Char → Option Char} (h : LettersRead letter?) (c : Char) :
    escaped letter? c ≠ [] := by
  rcases escaped_cases h c with ⟨heq, -⟩ | ⟨tail, heq, -⟩ <;> simp [heq]

theorem characters_escaped {letter? : Char → Option Char} (h : LettersRead letter?) (fuel : Nat)
    (done : List Char) (c : Char) (rest : List Char) :
    characters (fuel + 1) done (escaped letter? c ++ rest) = characters fuel (c :: done) rest := by
  rcases escaped_cases h c with ⟨heq, hquote, hslash, hcontrol⟩ | ⟨tail, heq, htail⟩
  · rw [heq, List.singleton_append, characters]
    · rw [if_neg hcontrol]
    · exact hquote
    · exact hslash
  · rw [heq, List.cons_append, characters, htail rest]

theorem length_le_length_escape {letter? : Char → Option Char} (h : LettersRead letter?)
    (text : List Char) : text.length ≤ (Json.escape letter? text).length := by
  induction text with
  | nil => exact Nat.zero_le _
  | cons c rest ih =>
    have hpos := List.length_pos_iff.2 (escaped_ne_nil h c)
    have hsplit : Json.escape letter? (c :: rest) = escaped letter? c ++ Json.escape letter? rest :=
      List.flatMap_cons
    rw [hsplit, List.length_append, List.length_cons]
    omega

theorem characters_escape {letter? : Char → Option Char} (h : LettersRead letter?)
    (text : List Char) {fuel : Nat} (hfuel : text.length < fuel) (done rest : List Char) :
    characters fuel done (Json.escape letter? text ++ '"' :: rest) =
      .ok (done.reverse ++ text, rest) := by
  induction text generalizing fuel done with
  | nil =>
    cases fuel with
    | zero => omega
    | succ fuel =>
      rw [List.append_nil]
      rfl
  | cons c others ih =>
    cases fuel with
    | zero => omega
    | succ fuel =>
      have hsplit : Json.escape letter? (c :: others) ++ '"' :: rest =
          escaped letter? c ++ (Json.escape letter? others ++ '"' :: rest) := by
        rw [← List.append_assoc]
        rfl
      have hfuel : others.length < fuel := Nat.lt_of_succ_lt_succ hfuel
      have hrest := ih hfuel (c :: done)
      rw [hsplit, characters_escaped h, hrest]
      simp

theorem string_quoted {letter? : Char → Option Char} (h : LettersRead letter?) (s : String)
    (rest : List Char) :
    string (Json.escape letter? s.toList ++ '"' :: rest) = .ok (s, rest) := by
  have hfuel : s.toList.length < (Json.escape letter? s.toList ++ '"' :: rest).length + 1 := by
    have hlength := length_le_length_escape h s.toList
    rw [List.length_append]
    omega
  rw [string, characters_escape h s.toList hfuel [] rest]
  simp

/-! Whole numbers. -/

/-- What comes next cannot go on a number: no digit comes first, no point and no letter
for an exponent. -/
def Stops (rest : List Char) : Prop :=
  ∀ c, rest.head? = some c → Numeral.isDigit c = false ∧ c ≠ '.' ∧ c ≠ 'e' ∧ c ≠ 'E'

theorem stops_nil : Stops [] := by
  intro c hc
  cases hc

theorem Stops.takeWhile_append {rest : List Char} (h : Stops rest) {digits : List Char}
    (hdigits : ∀ c ∈ digits, Numeral.isDigit c = true) :
    (digits ++ rest).takeWhile Numeral.isDigit = digits := by
  exact Numeral.takeWhile_digits_append hdigits fun c hc => (h c hc).1

theorem le_foldl_digits (digits : List Char) (start : Nat) :
    start ≤ digits.foldl (fun n c => n * 10 + (c.toNat - 48)) start := by
  induction digits generalizing start with
  | nil => exact Nat.le_refl _
  | cons c rest ih =>
    have hrest := ih (start * 10 + (c.toNat - 48))
    rw [List.foldl_cons]
    omega

theorem absorb_eq {digits : List Char} {start : Nat}
    (h : digits.foldl (fun n c => n * 10 + (c.toNat - 48)) start < significandLimit) :
    absorb start digits = (digits.foldl (fun n c => n * 10 + (c.toNat - 48)) start, []) := by
  induction digits generalizing start with
  | nil => rfl
  | cons c rest ih =>
    rw [List.foldl_cons] at h ⊢
    have hfirst := le_foldl_digits rest (start * 10 + (c.toNat - 48))
    rw [absorb, if_pos (by omega), ih h]

theorem absorb_decimal {n : Nat} (h : n < significandLimit) :
    absorb 0 (Numeral.decimal n) = (n, []) := by
  have hvalue := Numeral.value_decimal n
  rw [Numeral.value] at hvalue
  rw [absorb_eq (by omega), hvalue]

/-- A whole number that fits 64 bits is read back from its numeral, after its sign. -/
theorem number_decimal (b : Builder α) (negative : Bool) {n : Nat} (hfits : n < significandLimit)
    (hsign : negative = true → n ≠ 0 ∧ integerLeast ≤ -(n : Int)) {rest : List Char}
    (hrest : Stops rest) :
    number b negative (Numeral.decimal n ++ rest) =
      .ok (b.integer (Number.signed negative n), rest) := by
  have hget : (get : Reading (List Char)) (Numeral.decimal n ++ rest) =
      .ok (Numeral.decimal n ++ rest, Numeral.decimal n ++ rest) := rfl
  have hdigits := hrest.takeWhile_append fun c => Numeral.isDigit_of_mem_decimal (n := n)
  have hempty : (Numeral.decimal n).isEmpty = false := by
    simpa using Numeral.decimal_ne_nil n
  have hlow : ¬Number.signed negative n < integerLeast := by
    cases negative with
    | false =>
      simp only [Number.signed, Bool.false_eq_true, if_false, integerLeast]
      omega
    | true =>
      have hleast := (hsign rfl).2
      simp only [Number.signed, if_true]
      omega
  have hzero : ¬(negative = true ∧ n = 0) := fun h => (hsign h.1).1 h.2
  rw [number, bind_apply hget]
  simp only [hdigits, hempty, Bool.false_eq_true, if_false, if_neg (Numeral.decimal_leading n),
    absorb_decimal hfits, List.drop_left]
  split
  · exact absurd rfl (hrest _ rfl).2.1
  · exact absurd rfl (hrest _ rfl).2.2.1
  · exact absurd rfl (hrest _ rfl).2.2.2
  · simp only [List.isEmpty_nil, Bool.not_true, Bool.false_eq_true, hlow, hzero, or_self, if_false]
    rfl

end Reading
end DocQuery.Json
