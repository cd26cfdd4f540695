import DocQuery.Numeral
import Mathlib.Algebra.Group.Nat.Defs

/-!
The digits of whole numbers. A decimal numeral is made of digits alone, is never
empty, and begins with a zero only if it is the numeral of zero. Zeros put in front to
fill a width keep its value. A code point below 256 has at most two hexadecimal digits,
and is padded with zeros to four of them.
-/

namespace DocQuery.Numeral

theorem isDigit_digit {d : Nat} (h : d < 10) : isDigit (digit d) = true := by
  have hall : ∀ d < 10, isDigit (digit d) = true := by decide
  exact hall d h

theorem ne_of_isDigit {c d : Char} (hc : isDigit c = true) (hd : isDigit d = false) : c ≠ d := by
  rintro rfl
  rw [hc] at hd
  cases hd

theorem isDigit_of_mem_decimal {n : Nat} {c : Char} (h : c ∈ decimal n) : isDigit c = true := by
  unfold decimal at h
  fun_induction inBase 10 (by decide) n with
  | case1 n hn =>
    rw [List.mem_singleton.1 h]
    exact isDigit_digit hn
  | case2 n hn ih =>
    rcases List.mem_append.1 h with hfront | hlast
    · exact ih hfront
    · rw [List.mem_singleton.1 hlast]
      exact isDigit_digit (Nat.mod_lt n (by decide))

theorem decimal_ne_nil (n : Nat) : decimal n ≠ [] := by
  unfold decimal inBase
  split <;> simp

theorem head?_decimal_ne_zero {n : Nat} (h : n ≠ 0) : (decimal n).head? ≠ some '0' := by
  unfold decimal
  fun_induction inBase 10 (by decide) n with
  | case1 n hn =>
    have hall : ∀ d < 10, d ≠ 0 → some (digit d) ≠ some '0' := by decide
    exact hall n hn h
  | case2 n hn ih =>
    have hfront : n / 10 ≠ 0 := by omega
    obtain ⟨c, rest, hdigits⟩ := List.exists_cons_of_ne_nil (decimal_ne_nil (n / 10))
    have hhead := ih hfront
    unfold decimal at hdigits
    rw [hdigits] at hhead ⊢
    exact hhead

theorem decimal_leading (n : Nat) :
    ¬((decimal n).head? = some '0' ∧ 1 < (decimal n).length) := by
  rintro ⟨hhead, hlength⟩
  by_cases hn : n = 0
  · subst hn
    unfold decimal inBase at hlength
    simp at hlength
  · exact head?_decimal_ne_zero hn hhead

theorem length_decimal_le {n width : Nat} (hwidth : 0 < width) (h : n < 10 ^ width) :
    (decimal n).length ≤ width := by
  unfold decimal
  fun_induction inBase 10 (by decide) n generalizing width with
  | case1 n hn => exact hwidth
  | case2 n hn ih =>
    obtain ⟨k, rfl⟩ : ∃ k, width = k + 1 := ⟨width - 1, by omega⟩
    rw [Nat.pow_succ] at h
    rcases Nat.eq_zero_or_pos k with rfl | hk
    · rw [Nat.pow_zero] at h
      omega
    · have hfront := ih hk (by omega)
      rw [List.length_append, List.length_singleton]
      omega

theorem lt_pow_length_decimal (n : Nat) : n < 10 ^ (decimal n).length := by
  unfold decimal
  fun_induction inBase 10 (by decide) n with
  | case1 n hn => exact hn
  | case2 n hn ih =>
    rw [List.length_append, List.length_singleton, Nat.pow_succ]
    omega

theorem value_zeros_append (count : Nat) (digits : List Char) :
    value (List.replicate count '0' ++ digits) = value digits := by
  induction count with
  | zero => rfl
  | succ count ih =>
    rw [List.replicate_succ, List.cons_append]
    exact ih

theorem value_padded (width n : Nat) : value (padded width (decimal n)) = n := by
  rw [padded, value_zeros_append, value_decimal]

theorem isDigit_of_mem_padded {width n : Nat} {c : Char} (h : c ∈ padded width (decimal n)) :
    isDigit c = true := by
  rcases List.mem_append.1 h with hzero | hdigit
  · rw [List.eq_of_mem_replicate hzero]
    decide
  · exact isDigit_of_mem_decimal hdigit

theorem length_padded {width n : Nat} (hwidth : 0 < width) (h : n < 10 ^ width) :
    (padded width (decimal n)).length = width := by
  have hlength := length_decimal_le hwidth h
  rw [padded, List.length_append, List.length_replicate]
  omega

theorem le_length_padded (width n : Nat) : width ≤ (padded width (decimal n)).length := by
  rw [padded, List.length_append, List.length_replicate]
  omega

theorem padded_hexadecimal {n : Nat} (h : n < 256) :
    padded 4 (hexadecimal n) = ['0', '0', digit (n / 16), digit (n % 16)] := by
  unfold hexadecimal inBase
  by_cases hn : n < 16
  · have hfront : n / 16 = 0 := by omega
    have hlast : n % 16 = n := by omega
    rw [if_pos hn, hfront, hlast]
    rfl
  · have hfront : n / 16 < 16 := by omega
    rw [if_neg hn, inBase, if_pos hfront]
    rfl

end DocQuery.Numeral
