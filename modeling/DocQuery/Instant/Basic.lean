import DocQuery.Instant.Calendar
import DocQuery.Number.Arithmetic
/-!
Instants of coordinated time. An instant is a whole second since the first of January 1970 and the
nanoseconds that have passed since that second began; a leap second is told by nanoseconds from
10^9 on, and follows the last second of a minute. Instants are ordered by second, then by
nanosecond.
-/
namespace DocQuery

/-- The day number of the first of January 1970. -/
def epochDay : Int := 719528

def secondsPerDay : Int := 86400

def firstYear : Int := -262143
def lastYear : Int := 262142

/-- The first second of a day, counted from the epoch. -/
def secondOfDay (day : Int) : Int := (day - epochDay) * secondsPerDay

def nanosPerSecond : Nat := 1000000000

structure Instant where
  seconds : Int
  nanos : Nat
  inRange : secondOfDay (CalendarDate.daysBeforeYear firstYear) ≤ seconds ∧
    seconds < secondOfDay (CalendarDate.daysBeforeYear (lastYear + 1))
  subsecond : nanos < nanosPerSecond ∨ (nanos < 2 * nanosPerSecond ∧ seconds % 60 = 59)
deriving DecidableEq

namespace Instant

def ofParts? (seconds : Int) (nanos : Nat) : Option Instant :=
  if hr : secondOfDay (CalendarDate.daysBeforeYear firstYear) ≤ seconds ∧
      seconds < secondOfDay (CalendarDate.daysBeforeYear (lastYear + 1)) then
    if hs : nanos < nanosPerSecond ∨ (nanos < 2 * nanosPerSecond ∧ seconds % 60 = 59) then
      some ⟨seconds, nanos, hr, hs⟩
    else none
  else none

/-- Milliseconds since the epoch, rounded towards the past; within a leap second the count goes on. -/
def epochMillis (t : Instant) : Int := t.seconds * 1000 + (t.nanos / 1000000 : Nat)

def ofEpochMillis? (millis : Int) : Option Instant :=
  ofParts? (millis / 1000) ((millis % 1000).toNat * 1000000)

def epochNumber (t : Instant) : Number := Number.ofInt t.epochMillis

def epochSeconds (t : Instant) : Number := t.epochNumber.div (Number.ofInt 1000)

def precedes (a b : Instant) : Prop := a.seconds < b.seconds ∨ (a.seconds = b.seconds ∧ a.nanos < b.nanos)

instance (a b : Instant) : Decidable (a.precedes b) :=
  inferInstanceAs (Decidable (a.seconds < b.seconds ∨ (a.seconds = b.seconds ∧ a.nanos < b.nanos)))

instance : LT Instant := ⟨precedes⟩

def date (t : Instant) : CalendarDate :=
  CalendarDate.ofDayNumber (t.seconds / secondsPerDay + epochDay)

def secondOfMidnight (t : Instant) : Nat := (t.seconds % secondsPerDay).toNat

end Instant
end DocQuery
