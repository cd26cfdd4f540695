import DocQuery.Instant.Basic
import DocQuery.Numeral
/-!
The text of an instant: year, month and day, then hours, minutes and seconds with as many groups of
three decimals as are needed, then the offset from coordinated time. A leap second is written as
second 60. Years from 0 to 9999 have four digits, all others a sign and at least four.
-/
namespace DocQuery.Instant

open Numeral

def yearText (year : Int) : List Char :=
  let digits := padded 4 (decimal year.natAbs)
  if 0 ≤ year ∧ year ≤ 9999 then digits
  else (if year < 0 then '-' else '+') :: digits

def twoDigits (n : Nat) : List Char := padded 2 (decimal n)

/-- The decimals of a second: none, three, six or nine of them. -/
def fractionText (nanos : Nat) : List Char :=
  if nanos = 0 then []
  else if nanos % 1000000 = 0 then '.' :: padded 3 (decimal (nanos / 1000000))
  else if nanos % 1000 = 0 then '.' :: padded 6 (decimal (nanos / 1000))
  else '.' :: padded 9 (decimal nanos)

def localText (t : Instant) : List Char :=
  let d := t.date
  let s := t.secondOfMidnight
  let leap := t.nanos / nanosPerSecond
  yearText d.year ++ '-' :: (twoDigits d.month ++ '-' :: (twoDigits d.day ++ 'T' ::
    (twoDigits (s / 3600) ++ ':' :: (twoDigits (s / 60 % 60) ++ ':' ::
      (twoDigits (s % 60 + leap) ++ fractionText (t.nanos % nanosPerSecond))))))

/-- The text with a numeric offset of zero. -/
def text (t : Instant) : List Char := t.localText ++ "+00:00".toList

def zuluText (t : Instant) : List Char := t.localText ++ ['Z']

end DocQuery.Instant
