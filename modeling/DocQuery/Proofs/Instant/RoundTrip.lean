import DocQuery.Proofs.Instant
import DocQuery.Proofs.Instant.Reading
import DocQuery.Value.Normalize

/-!
Instants there and back. An instant that is made from milliseconds has these milliseconds, and
they are exact as a number. The text of an instant is read as this instant where its year has
four digits and no sign. A year with a sign is left to the loose form, which reads date and time
and then finds the offset, where the text should end.
-/

namespace DocQuery

namespace Instant

open Numeral

theorem ofParts?_parts (t : Instant) : ofParts? t.seconds t.nanos = some t := by
  rw [ofParts?, dif_pos t.inRange, dif_pos t.subsecond]

theorem parts_of_ofParts? {seconds : Int} {nanos : Nat} {t : Instant}
    (h : ofParts? seconds nanos = some t) : t.seconds = seconds ∧ t.nanos = nanos := by
  unfold ofParts? at h
  split at h
  · split at h
    · cases h
      exact ⟨rfl, rfl⟩
    · cases h
  · cases h

theorem epochMillis_of_ofEpochMillis? {millis : Int} {t : Instant}
    (h : ofEpochMillis? millis = some t) : t.epochMillis = millis := by
  obtain ⟨hseconds, hnanos⟩ := parts_of_ofParts? h
  rw [epochMillis, hseconds, hnanos]
  omega

/-! The fields that are written. -/

/-- Date and time of day of the instant; a leap second has number 60. -/
def fields (t : Instant) : Fields where
  date := t.date
  hour := t.secondOfMidnight / 3600
  minute := t.secondOfMidnight / 60 % 60
  second := t.secondOfMidnight % 60 + t.nanos / nanosPerSecond
  nanos := t.nanos % nanosPerSecond

/-- Date and time as they are written, without the year. -/
def Fields.textAfterYear (f : Fields) : List Char :=
  '-' :: (twoDigits f.date.month ++ '-' :: (twoDigits f.date.day ++ 'T' ::
    (twoDigits f.hour ++ ':' :: (twoDigits f.minute ++ ':' ::
      (twoDigits f.second ++ (fractionText f.nanos ++ "+00:00".toList))))))

theorem text_eq (t : Instant) : t.text = yearText t.date.year ++ t.fields.textAfterYear := by
  simp [text, localText, Fields.textAfterYear, fields]

variable (t : Instant)

theorem date_valid : t.date.Valid := (CalendarDate.ofDayNumber_spec _).1

theorem secondOfDay_date :
    secondOfDay t.date.dayNumber + (t.secondOfMidnight : Int) = t.seconds := by
  have hday : t.date.dayNumber = t.seconds / secondsPerDay + epochDay :=
    (CalendarDate.ofDayNumber_spec _).2
  rw [hday, secondOfMidnight, secondOfDay, secondsPerDay]
  omega

theorem secondOfMidnight_lt : t.secondOfMidnight < 86400 := by
  rw [secondOfMidnight, secondsPerDay]
  omega

theorem year_within : firstYear ≤ t.date.year ∧ t.date.year ≤ lastYear := by
  have hrange := t.inRange
  have hday : t.date.year = CalendarDate.yearOf (t.seconds / secondsPerDay + epochDay) := rfl
  obtain ⟨hfrom, hto⟩ := CalendarDate.yearOf_spec (t.seconds / secondsPerDay + epochDay)
  rw [← hday] at hfrom hto
  rw [secondOfDay, secondOfDay, secondsPerDay] at hrange
  rw [secondsPerDay] at hfrom hto
  constructor
  · refine Int.not_lt.mp fun hearly => ?_
    have hmono := CalendarDate.daysBeforeYear_mono (show t.date.year + 1 ≤ firstYear by omega)
    omega
  · refine Int.not_lt.mp fun hlate => ?_
    have hmono := CalendarDate.daysBeforeYear_mono (show lastYear + 1 ≤ t.date.year by omega)
    omega

/-- There is a leap second or there is none, and only the last second of a minute has one. -/
theorem leap_cases : t.nanos / nanosPerSecond = 0 ∨
    (t.nanos / nanosPerSecond = 1 ∧ t.secondOfMidnight % 60 = 59) := by
  have hnanos := t.nanos_lt
  have hsubsecond := t.subsecond
  rw [nanosPerSecond] at hnanos hsubsecond ⊢
  rw [secondOfMidnight, secondsPerDay]
  omega

theorem instant?_fields : t.fields.instant? 0 = some t := by
  have hexists : t.fields.date.Valid ∧ firstYear ≤ t.fields.date.year ∧
      t.fields.date.year ≤ lastYear := ⟨t.date_valid, t.year_within⟩
  have hleap := t.leap_cases
  have hpair : (if t.fields.second = 60 then (59, nanosPerSecond) else (t.fields.second, 0)) =
      (t.secondOfMidnight % 60, nanosPerSecond * (t.nanos / nanosPerSecond)) := by
    change (if t.secondOfMidnight % 60 + t.nanos / nanosPerSecond = 60 then _ else
      (t.secondOfMidnight % 60 + t.nanos / nanosPerSecond, 0)) = _
    rcases hleap with hnone | ⟨hone, hlast⟩
    · rw [hnone, if_neg (by omega)]
      rfl
    · rw [hone, hlast, if_pos rfl, Nat.mul_one]
  have hseconds : secondOfDay t.date.dayNumber + (t.fields.hour * 3600 + t.fields.minute * 60 +
      t.secondOfMidnight % 60 : Nat) - 0 = t.seconds := by
    have hday := t.secondOfDay_date
    simp only [fields]
    omega
  have hnanos : t.fields.nanos + nanosPerSecond * (t.nanos / nanosPerSecond) = t.nanos :=
    Nat.mod_add_div _ _
  unfold Fields.instant?
  rw [hpair]
  simp only
  rw [hnanos, if_pos hexists]
  exact (congrArg (ofParts? · t.nanos) hseconds).trans t.ofParts?_parts

/-! Reading the text. -/

theorem endsSecond_offset : EndsSecond "+00:00".toList :=
  ⟨endsDigits_cons (by decide) _, by decide⟩

theorem fields_bounds : t.fields.hour < 24 ∧ t.fields.minute < 60 ∧ t.fields.second ≤ 60 ∧
    t.fields.nanos < nanosPerSecond := by
  have hmidnight := t.secondOfMidnight_lt
  have hleap := t.leap_cases
  refine ⟨?_, ?_, ?_, Nat.mod_lt _ (by decide)⟩
  all_goals
    simp only [fields]
    omega

theorem timeOfDay_fields {part : Reading Nat} (hpart : ReadsPair part) :
    timeOfDay part (twoDigits t.fields.hour ++ ':' :: (twoDigits t.fields.minute ++ ':' ::
        (twoDigits t.fields.second ++ (fractionText t.fields.nanos ++ "+00:00".toList)))) =
      .ok ((t.fields.hour, t.fields.minute, t.fields.second, t.fields.nanos), "+00:00".toList) := by
  obtain ⟨hhour, hminute, hsecond, hnanos⟩ := t.fields_bounds
  exact timeOfDay_text hpart hhour hminute hsecond hnanos endsSecond_offset

theorem existing_fields (text : List Char) : existing t.fields 0 text = .ok (t, text) := by
  rw [existing, t.instant?_fields]
  rfl

theorem strict_text (hyear : 0 ≤ t.date.year ∧ t.date.year ≤ 9999) :
    strict t.text = .ok (t, []) := by
  have hdigits : yearText t.date.year = padded 4 (decimal t.date.year.natAbs) := if_pos hyear
  have habs : ((t.date.year.natAbs : Nat) : Int) = t.date.year := by omega
  have hread : number 4 (some 4) (yearText t.date.year ++ t.fields.textAfterYear) =
      .ok (t.date.year.natAbs, t.fields.textAfterYear) := by
    have hlimit : t.date.year.natAbs ≤ numberLimit := by
      unfold numberLimit
      omega
    rw [hdigits]
    exact number_padded (by omega) (by decide) (Nat.le_refl 4) (by simp) (Or.inl rfl) hlimit
  have hdate : restOfDate (number 2 (some 2)) t.date.year t.fields.textAfterYear = .ok (t.date, _) :=
    restOfDate_text strictPair t.date_valid (by decide)
  have hoffset : offset "+00:00".toList = .ok (0, []) := rfl
  rw [text_eq, strict, bind_apply hread, habs, bind_apply hdate]
  refine (bind_apply rfl).trans ?_
  rw [bind_apply (t.timeOfDay_fields strictPair)]
  exact (bind_apply hoffset).trans ((bind_apply rfl).trans (t.existing_fields []))

section Signed

variable {t} (hyear : ¬(0 ≤ t.date.year ∧ t.date.year ≤ 9999))
include hyear

/-- A year that has more or fewer than four digits is written with its sign. -/
theorem text_signed : t.text = (if t.date.year < 0 then '-' else '+') ::
    (padded 4 (decimal t.date.year.natAbs) ++ t.fields.textAfterYear) := by
  rw [text_eq, yearText, if_neg hyear]
  rfl

/-- A year with a sign is none for the strict form. -/
theorem strict_fault : ∃ fault, strict t.text = .error fault := by
  have hends : EndsDigits t.text := by
    rw [text_signed hyear]
    refine endsDigits_cons ?_ _
    split <;> decide
  have hyear : ∃ fault, number 4 (some 4) t.text = .error fault := number_fault (by decide) hends
  obtain ⟨fault, hfault⟩ := hyear
  exact ⟨fault, bind_fault hfault⟩

theorem looseYear_text : looseYear t.text = .ok (t.date.year, t.fields.textAfterYear) := by
  obtain ⟨hfirst, hlast⟩ := t.year_within
  rw [firstYear] at hfirst
  rw [lastYear] at hlast
  have hlimit : (t.date.year.natAbs : Int) < yearLimit := by
    rw [yearLimit]
    omega
  have hends : EndsDigits t.fields.textAfterYear := endsDigits_cons (by decide) _
  rw [text_signed hyear]
  by_cases hneg : t.date.year < 0
  · have hsigned : Number.signed true t.date.year.natAbs = t.date.year := by
      change -(t.date.year.natAbs : Int) = t.date.year
      omega
    rw [if_pos hneg, looseYear_signed (Or.inl rfl) hlimit hends]
    exact congrArg (fun year => Except.ok (year, t.fields.textAfterYear)) hsigned
  · have hsigned : Number.signed false t.date.year.natAbs = t.date.year := by
      change (t.date.year.natAbs : Int) = t.date.year
      omega
    rw [if_neg hneg, looseYear_signed (Or.inr rfl) hlimit hends]
    exact congrArg (fun year => Except.ok (year, t.fields.textAfterYear)) hsigned

/-- The loose form reads date and time after a year with a sign, and then the text goes on. -/
theorem loose_fault : loose t.text = .error .tooLong := by
  have hdate : restOfDate _ t.date.year t.fields.textAfterYear = .ok (t.date, _) :=
    restOfDate_text loosePair t.date_valid (by decide)
  have hfinish : finish "+00:00".toList = .error .tooLong := rfl
  rw [loose, bind_apply (looseYear_text hyear), bind_apply hdate, bind_apply (literal_cons _ _),
    bind_apply (t.timeOfDay_fields loosePair)]
  exact bind_fault hfinish

end Signed

/-- The text is read as the instant if its year has four digits, and is otherwise at fault. -/
theorem parse_text : parse t.text =
    if 0 ≤ t.date.year ∧ t.date.year ≤ 9999 then .ok t else .error .tooLong := by
  by_cases hyear : 0 ≤ t.date.year ∧ t.date.year ≤ 9999
  · have hstrict : strict.run' t.text = .ok t := by
      rw [StateT.run', t.strict_text hyear]
      rfl
    rw [parse, hstrict, if_pos hyear]
  · obtain ⟨fault, hfault⟩ := strict_fault hyear
    have hstrict : strict.run' t.text = .error fault := by
      rw [StateT.run', hfault]
      rfl
    have hloose : loose.run' t.text = .error .tooLong := by
      rw [StateT.run', loose_fault hyear]
      rfl
    rw [parse, hstrict, if_neg hyear]
    exact hloose

/-- An instant made from milliseconds has these milliseconds, fewer than 2^53 either way, and its
comparable form is the number that they are. The text of any instant is read as this instant, its
nanoseconds and a leap second included, if its year lies between 0 and 9999, and as none if not. -/
theorem returns_from_millis_and_text :
    (∀ (millis : Int) (t : Instant), ofEpochMillis? millis = some t →
      t.epochMillis = millis ∧ millis.natAbs < 2 ^ 53 ∧
        ∃ n : Number, (Value.date t).normalize = .number n ∧ n.Is millis) ∧
    ∀ t : Instant, parse t.text =
      if 0 ≤ t.date.year ∧ t.date.year ≤ 9999 then .ok t else .error .tooLong := by
  refine ⟨fun millis t h => ?_, parse_text⟩
  have hmillis := epochMillis_of_ofEpochMillis? h
  subst hmillis
  exact ⟨rfl, t.natAbs_epochMillis_lt, t.epochNumber, by rw [Value.normalize],
    t.epochNumber_is_epochMillis⟩

/-- The millisecond before the epoch is that of its last second, and its text is read back; the
one that begins the year 10000 has a text that is not. -/
theorem millis_before_epoch_and_after_year_9999 :
    (∃ t, ofEpochMillis? (-1) = some t ∧ t.epochMillis = -1 ∧ parse t.text = .ok t) ∧
      ∃ t, ofEpochMillis? 253402300800000 = some t ∧ t.epochMillis = 253402300800000 ∧
        parse t.text = .error .tooLong := by
  have hbefore : ofEpochMillis? (-1) = some ⟨-1, 999000000, by decide, by decide⟩ := by decide
  have hafter : ofEpochMillis? 253402300800000 =
      some ⟨253402300800, 0, by decide, by decide⟩ := by decide
  obtain ⟨hmillis, htext⟩ := returns_from_millis_and_text
  exact ⟨⟨_, hbefore, (hmillis _ _ hbefore).1, (htext _).trans (if_pos (by decide))⟩,
    _, hafter, (hmillis _ _ hafter).1, (htext _).trans (if_neg (by decide))⟩

end Instant
end DocQuery
