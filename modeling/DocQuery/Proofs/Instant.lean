import DocQuery.Instant.Basic
import DocQuery.Proofs.Number

/-!
Instants and their milliseconds. The milliseconds of an instant go on counting within a leap
second, and the second after it starts again from where the leap second started. So an instant
in a leap second can outrun one in the second after it: it comes before it, and has more
milliseconds. Between all other instants the order of the milliseconds is that of time.
-/

namespace DocQuery.Instant

/-- The first instant is in a leap second and the second one in the second right after it, fewer
whole milliseconds from its beginning. -/
def Outruns (a b : Instant) : Prop :=
  nanosPerSecond ≤ a.nanos ∧ b.seconds = a.seconds + 1 ∧
    b.nanos / 1000000 < (a.nanos - nanosPerSecond) / 1000000

instance (a b : Instant) : Decidable (a.Outruns b) :=
  inferInstanceAs (Decidable (_ ∧ _ ∧ _))

variable {a b : Instant}

theorem nanos_lt (t : Instant) : t.nanos < 2 * nanosPerSecond := by
  have h := t.subsecond
  rw [nanosPerSecond] at h ⊢
  omega

theorem epochMillis_le_of_not_precedes (h : ¬b.precedes a) (hrun : ¬a.Outruns b) :
    a.epochMillis ≤ b.epochMillis := by
  have ha := a.nanos_lt
  unfold precedes at h
  unfold Outruns at hrun
  unfold epochMillis
  rw [nanosPerSecond] at ha hrun
  omega

theorem precedes_asymm (h : a.precedes b) : ¬b.precedes a := by
  unfold precedes at h ⊢
  omega

/-- An instant that outruns another comes before it; there are no other instants that have
their milliseconds in the wrong order. -/
theorem outruns_iff : a.Outruns b ↔ a.precedes b ∧ b.epochMillis < a.epochMillis := by
  constructor
  · rintro ⟨hleap, hnext, hless⟩
    rw [nanosPerSecond] at hleap hless
    unfold precedes epochMillis
    omega
  · rintro ⟨hbefore, hmillis⟩
    by_cases hrun : a.Outruns b
    · exact hrun
    · have hle := epochMillis_le_of_not_precedes (precedes_asymm hbefore) hrun
      omega

theorem precedes_of_epochMillis_lt (h : a.epochMillis < b.epochMillis) (hrun : ¬b.Outruns a) :
    a.precedes b := by
  by_cases hbefore : a.precedes b
  · exact hbefore
  · have hle := epochMillis_le_of_not_precedes hbefore hrun
    omega

theorem natAbs_epochMillis_lt (t : Instant) : t.epochMillis.natAbs < Nat.pow 2 53 := by
  have hrange := t.inRange
  have hnanos := t.nanos_lt
  simp only [secondOfDay, CalendarDate.daysBeforeYear, firstYear, lastYear, epochDay,
    secondsPerDay] at hrange
  rw [nanosPerSecond] at hnanos
  rw [epochMillis, Nat.pow_eq]
  omega

theorem natAbs_epochMillis_le (t : Instant) : t.epochMillis.natAbs ≤ Nat.pow 2 53 :=
  Nat.le_of_lt t.natAbs_epochMillis_lt

theorem epochNumber_is_epochMillis (t : Instant) : t.epochNumber.Is t.epochMillis :=
  Number.is_ofInt t.natAbs_epochMillis_le

theorem compare?_epochNumber (a b : Instant) :
    a.epochNumber.compare? b.epochNumber = some (compare a.epochMillis b.epochMillis) :=
  Number.compare?_ofInt a.natAbs_epochMillis_le b.natAbs_epochMillis_le

end DocQuery.Instant
