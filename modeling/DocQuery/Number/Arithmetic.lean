import DocQuery.Number.Rounding
/-!
Sum, product, quotient and remainder of binary64 numbers. Each is the exact result rounded once;
the remainder needs no rounding, because what is left after whole divisors fits the divisor's
spacing (`representable_mod`).
-/
namespace DocQuery

theorem spacing_dvd_spacing {a b : Nat} (h : a ≤ b) : spacing a ∣ spacing b := by
  unfold spacing
  refine Nat.pow_dvd_pow 2 (Nat.sub_le_sub_right ?_ _)
  by_cases ha : a = 0
  · simp [ha]
  · exact (Nat.le_log2 (by omega)).2 (Nat.le_trans (Nat.log2_self_le ha) h)

theorem representable_mod {a b : Nat} (ha : Representable a) (hb : Representable b) :
    Representable (a % b) := by
  rcases Nat.lt_or_ge a b with hlt | hge
  · rw [Nat.mod_eq_of_lt hlt]
    exact ha
  · refine ⟨Nat.lt_of_le_of_lt (Nat.mod_le a b) ha.1, ?_⟩
    by_cases hz : b = 0
    · rw [hz, Nat.mod_zero]
      exact ha.2
    · have hba : spacing b ∣ a := Nat.dvd_trans (spacing_dvd_spacing hge) ha.2
      have hr : spacing b ∣ a % b := (Nat.dvd_mod_iff hb.2).2 hba
      have hle : a % b ≤ b := Nat.le_of_lt (Nat.mod_lt a (Nat.pos_of_ne_zero hz))
      exact Nat.dvd_trans (spacing_dvd_spacing hle) hr

namespace Number

def add : Number → Number → Number
  | .nan, _ => .nan
  | _, .nan => .nan
  | .infinite s, .infinite t => if s = t then .infinite s else .nan
  | .infinite s, .finite .. => .infinite s
  | .finite .., .infinite t => .infinite t
  | .finite s u _, .finite t v _ =>
    let sum := signed s u + signed t v
    ofUnits (decide (sum < 0) || (sum == 0 && s && t)) sum.natAbs 1

def mul : Number → Number → Number
  | .nan, _ => .nan
  | _, .nan => .nan
  | .infinite s, .infinite t => .infinite (s != t)
  | .infinite s, .finite t v _ => if v = 0 then .nan else .infinite (s != t)
  | .finite s u _, .infinite t => if u = 0 then .nan else .infinite (s != t)
  | .finite s u _, .finite t v _ => ofUnits (s != t) (u * v) unitsPerOne

def div : Number → Number → Number
  | .nan, _ => .nan
  | _, .nan => .nan
  | .infinite _, .infinite _ => .nan
  | .infinite s, .finite t _ _ => .infinite (s != t)
  | .finite s _ _, .infinite t => .finite (s != t) 0 representable_zero
  | .finite s u _, .finite t v _ =>
    if v = 0 then if u = 0 then .nan else .infinite (s != t)
    else ofUnits (s != t) (u * unitsPerOne) v

/-- What is left of the dividend after a whole number of divisors, with the dividend's sign. -/
def remainder : Number → Number → Number
  | .nan, _ => .nan
  | _, .nan => .nan
  | .infinite _, _ => .nan
  | .finite s u hu, .infinite _ => .finite s u hu
  | .finite s u hu, .finite _ v hv =>
    if v = 0 then .nan else .finite s (u % v) (representable_mod hu hv)

end Number
end DocQuery
