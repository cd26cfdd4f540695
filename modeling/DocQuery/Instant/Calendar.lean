/-!
The Gregorian calendar, extended to all years. Days are counted from the first of January of the
year 0. Main statements: a day lies in the year that `yearOf` finds for it (`yearOf_spec`), and it is
the day of the date that `ofDayNumber` finds for it, which exists (`ofDayNumber_spec`).
-/
namespace DocQuery

/-- A day of the calendar; the month counts from 1, and so does the day. -/
structure CalendarDate where
  year : Int
  month : Nat
  day : Nat
deriving DecidableEq

namespace CalendarDate

def isLeap (year : Int) : Bool := year % 4 == 0 && (year % 100 != 0 || year % 400 == 0)

def daysBeforeYear (year : Int) : Int :=
  365 * year + (year + 3) / 4 - (year + 99) / 100 + (year + 399) / 400

/-- The year that a day lies in: an estimate by the mean length of a year, corrected by one. -/
def yearOf (day : Int) : Int :=
  let year := day * 400 / 146097
  if daysBeforeYear (year + 1) ≤ day then year + 1
  else if day < daysBeforeYear year then year - 1
  else year

def monthLengths (leap : Bool) : List Nat :=
  [31, if leap then 29 else 28, 31, 30, 31, 30, 31, 31, 30, 31, 30, 31]

def monthLength (year : Int) (month : Nat) : Nat :=
  ((monthLengths (isLeap year))[month - 1]?).getD 0

theorem monthLength_le (year : Int) (month : Nat) : monthLength year month ≤ 31 := by
  have hall : ∀ leap, ∀ length ∈ monthLengths leap, length ≤ 31 := by decide
  rw [monthLength]
  cases hlength : (monthLengths (isLeap year))[month - 1]? with
  | none => exact Nat.zero_le _
  | some length => exact hall _ length (List.mem_of_getElem? hlength)

def Valid (d : CalendarDate) : Prop :=
  1 ≤ d.month ∧ d.month ≤ 12 ∧ 1 ≤ d.day ∧ d.day ≤ monthLength d.year d.month

instance (d : CalendarDate) : Decidable d.Valid :=
  inferInstanceAs (Decidable (1 ≤ d.month ∧ d.month ≤ 12 ∧ 1 ≤ d.day ∧ d.day ≤ monthLength d.year d.month))

/-- The days of months of these lengths. -/
def daysOf : List Nat → Nat
  | [] => 0
  | length :: rest => length + daysOf rest

/-- The days from the first of January of the year 0 to a date. -/
def dayNumber (d : CalendarDate) : Int :=
  daysBeforeYear d.year + daysOf ((monthLengths (isLeap d.year)).take (d.month - 1)) + (d.day - 1 : Nat)

/-- The month and day for a day counted within the months to come. -/
def splitMonths : List Nat → Nat → Nat × Nat
  | [], day => (1, day + 1)
  | length :: rest, day =>
    if day < length then (1, day + 1)
    else
      let (month, d) := splitMonths rest (day - length)
      (month + 1, d)

def ofDayNumber (day : Int) : CalendarDate :=
  let year := yearOf day
  let (month, d) := splitMonths (monthLengths (isLeap year)) (day - daysBeforeYear year).toNat
  ⟨year, month, d⟩

theorem yearOf_spec (day : Int) :
    daysBeforeYear (yearOf day) ≤ day ∧ day < daysBeforeYear (yearOf day + 1) := by
  unfold yearOf
  simp only
  generalize hy : day * 400 / 146097 = year
  split
  · refine ⟨by assumption, ?_⟩
    unfold daysBeforeYear at *
    omega
  · split
    · rw [Int.sub_add_cancel]
      refine ⟨?_, by assumption⟩
      unfold daysBeforeYear at *
      omega
    · omega

theorem daysBeforeYear_mono {a b : Int} (h : a ≤ b) : daysBeforeYear a ≤ daysBeforeYear b := by
  unfold daysBeforeYear
  omega

theorem daysBeforeYear_succ (year : Int) :
    daysBeforeYear (year + 1) = daysBeforeYear year + daysOf (monthLengths (isLeap year)) := by
  have hleap : isLeap year = true ↔ year % 4 = 0 ∧ (year % 100 ≠ 0 ∨ year % 400 = 0) := by
    simp [isLeap]
  unfold daysBeforeYear
  by_cases h : isLeap year = true
  · rw [h]
    have := hleap.1 h
    simp only [monthLengths, daysOf, if_true]
    omega
  · have h' : ¬ (year % 4 = 0 ∧ (year % 100 ≠ 0 ∨ year % 400 = 0)) := fun g => h (hleap.2 g)
    simp only [Bool.not_eq_true] at h
    rw [h]
    simp only [monthLengths, daysOf]
    simp only [if_neg (Bool.false_ne_true)]
    omega

theorem splitMonths_spec {lengths : List Nat} {day : Nat} (h : day < daysOf lengths) :
    ∃ month d, splitMonths lengths day = (month + 1, d + 1) ∧
      daysOf (lengths.take month) + d = day ∧
      ∃ hm : month < lengths.length, d < lengths[month] := by
  induction lengths generalizing day with
  | nil => exact absurd h (Nat.not_lt_zero day)
  | cons length rest ih =>
    rw [splitMonths]
    by_cases hfirst : day < length
    · refine ⟨0, day, if_pos hfirst, Nat.zero_add day, Nat.zero_lt_succ _, hfirst⟩
    · rw [daysOf] at h
      have hlater : day - length < daysOf rest := by omega
      obtain ⟨month, d, hsplit, hday, hm, hd⟩ := ih hlater
      refine ⟨month + 1, d, ?_, ?_, Nat.succ_lt_succ hm, hd⟩
      · rw [if_neg hfirst, hsplit]
      · rw [List.take_succ_cons, daysOf]
        omega

/-- The date of a day exists, and is counted as this day. -/
theorem ofDayNumber_spec (day : Int) :
    (ofDayNumber day).Valid ∧ (ofDayNumber day).dayNumber = day := by
  obtain ⟨hfrom, hto⟩ := yearOf_spec day
  rw [daysBeforeYear_succ] at hto
  have hyear : (day - daysBeforeYear (yearOf day)).toNat <
      daysOf (monthLengths (isLeap (yearOf day))) := by omega
  obtain ⟨month, d, hsplit, hday, hm, hd⟩ := splitMonths_spec hyear
  have hdate : ofDayNumber day = ⟨yearOf day, month + 1, d + 1⟩ := by
    rw [ofDayNumber, hsplit]
  have hlength : monthLength (yearOf day) (month + 1) =
      (monthLengths (isLeap (yearOf day)))[month] := by
    rw [monthLength, Nat.add_sub_cancel, List.getElem?_eq_getElem hm, Option.getD_some]
  have htwelve : month < 12 := hm
  rw [hdate]
  constructor
  · refine ⟨Nat.le_add_left 1 month, htwelve, Nat.le_add_left 1 d, ?_⟩
    rw [hlength]
    exact hd
  · simp only [dayNumber, Nat.add_sub_cancel]
    omega

end CalendarDate
end DocQuery
