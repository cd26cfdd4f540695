import DocQuery.Numeral

/-!
Readers take from the front of a text and leave the rest. What comes first in a sequence of
readers is read first; if it is at fault, so is the sequence. Digits in front of a text are taken
up to the first character that is none.
-/

namespace DocQuery

section Sequence

variable {σ ε α β : Type} {x : StateT σ (Except ε) α} {f : α → StateT σ (Except ε) β} {text : σ}

theorem bind_apply {rest : σ} {a : α} (h : x text = .ok (a, rest)) : (x >>= f) text = f a rest := by
  change (x text >>= fun p => f p.1 p.2) = f a rest
  rw [h]
  rfl

theorem bind_fault {fault : ε} (h : x text = .error fault) : (x >>= f) text = .error fault := by
  change (x text >>= fun p => f p.1 p.2) = .error fault
  rw [h]
  rfl

end Sequence

namespace Numeral

/-- The text does not begin with a digit. -/
def EndsDigits (rest : List Char) : Prop := ∀ c, rest.head? = some c → isDigit c = false

theorem endsDigits_nil : EndsDigits [] := by
  intro c hc
  cases hc

theorem endsDigits_cons {c : Char} (h : isDigit c = false) (rest : List Char) :
    EndsDigits (c :: rest) := by
  intro d hd
  rw [← Option.some.inj hd]
  exact h

variable {digits rest : List Char}

theorem takeWhile_digits_append (hdigits : ∀ c ∈ digits, isDigit c = true) (hrest : EndsDigits rest) :
    (digits ++ rest).takeWhile isDigit = digits := by
  rw [List.takeWhile_append_of_pos hdigits]
  cases rest with
  | nil => rw [List.takeWhile_nil, List.append_nil]
  | cons c rest =>
    have hc := hrest c rfl
    rw [List.takeWhile_cons_of_neg (by simp [hc]), List.append_nil]

theorem dropWhile_digits (hrest : EndsDigits rest) : rest.dropWhile isDigit = rest := by
  cases rest with
  | nil => rfl
  | cons c rest => exact List.dropWhile_cons_of_neg (by simp [hrest c rfl])

end Numeral
end DocQuery
