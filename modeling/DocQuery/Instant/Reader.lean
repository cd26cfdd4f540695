import DocQuery.Instant.Basic
import DocQuery.Numeral
import DocQuery.Unicode.WhiteSpace
/-!
Reading an instant from text. Two forms are read, tried in this order. The strict form has exactly
four, two and two digits for the date, a `T` or a blank, two digits for each part of the time, and
an offset. The loose form has no offset and is read as coordinated time; its numbers may be shorter
and may follow white space, and its year may have a sign and any number of digits. What is wrong
with a text that neither form reads is what is wrong with it as a loose one.
-/
namespace DocQuery.Instant

inductive Fault where
  | tooShort
  | tooLong
  | invalid
  | outOfRange
deriving DecidableEq

def Fault.message : Fault → String
  | .tooShort => "premature end of input"
  | .tooLong => "trailing input"
  | .invalid => "input contains invalid characters"
  | .outOfRange => "input is out of range"

/-- Reading takes from the front of a text and leaves the rest. -/
abbrev Reading := StateT (List Char) (Except Fault)

def utf8Length (text : List Char) : Nat := text.foldl (fun length c => length + c.utf8Size) 0

/-- The largest number that is read, 2 ^ 63 - 1. -/
def numberLimit : Nat := 0x7FFFFFFFFFFFFFFF

/-- Reads at least `least` digits, and at most `most` if that is given. -/
def number (least : Nat) (most : Option Nat) : Reading Nat := fun text =>
  let window := match most with
    | some n => text.take n
    | none => text
  let digits := window.takeWhile Numeral.isDigit
  if utf8Length text < least then .error .tooShort
  else if digits.length < least then .error .invalid
  else if numberLimit < Numeral.value digits then .error .outOfRange
  else .ok (Numeral.value digits, text.drop digits.length)

def literal (c : Char) : Reading Unit
  | [] => .error .tooShort
  | d :: rest => if d = c then .ok ((), rest) else .error .invalid

def skip (among : Char → Bool) : Reading Unit := fun text => .ok ((), text.dropWhile among)

/-- Takes the first character if it is one of these. -/
def optional (among : Char → Bool) : Reading (Option Char)
  | [] => .ok (none, [])
  | c :: rest => if among c then .ok (some c, rest) else .ok (none, c :: rest)

/-- Takes the first character, which has to be one of these. -/
def oneOf (among : Char → Bool) : Reading Char
  | [] => .error .tooShort
  | c :: rest => if among c then .ok (c, rest) else .error .invalid

def finish : Reading Unit
  | [] => .ok ((), [])
  | _ :: _ => .error .tooLong

def bounded (low high n : Nat) : Reading Unit :=
  if low ≤ n ∧ n ≤ high then pure () else throw .outOfRange

/-- Reads decimals after a point as nanoseconds; those beyond nine are passed over. -/
def fraction : Reading Nat := do
  match ← optional (· == '.') with
  | none => pure 0
  | some _ =>
    let before ← get
    let n ← number 1 (some 9)
    let after ← get
    skip Numeral.isDigit
    pure (n * Nat.pow 10 (9 - (before.length - after.length)))

structure Fields where
  date : CalendarDate
  hour : Nat
  minute : Nat
  second : Nat
  nanos : Nat

/-- The instant that the fields name, `offset` seconds ahead of coordinated time. A second 60 is the
leap second after second 59. -/
def Fields.instant? (f : Fields) (offset : Int) : Option Instant :=
  let (second, extra) := if f.second = 60 then (59, nanosPerSecond) else (f.second, 0)
  if f.date.Valid ∧ firstYear ≤ f.date.year ∧ f.date.year ≤ lastYear then
    ofParts? (secondOfDay f.date.dayNumber + (f.hour * 3600 + f.minute * 60 + second : Nat) - offset)
      (f.nanos + extra)
  else none

/-- Reads the letter or number for an offset, in seconds. -/
def offset : Reading Int := do
  let c ← oneOf fun c => c == 'Z' || c == 'z' || c == '+' || c == '-' || c == '\u2212'
  if c = 'Z' ∨ c = 'z' then pure 0
  else
    let hours ← number 2 (some 2)
    literal ':'
    let minutes ← number 2 (some 2)
    bounded 0 23 hours
    bounded 0 59 minutes
    pure (Number.signed (c != '+') (hours * 3600 + minutes * 60))

/-- Reads the time of day; `part` reads one of its numbers. -/
def timeOfDay (part : Reading Nat) : Reading (Nat × Nat × Nat × Nat) := do
  let hour ← part
  bounded 0 23 hour
  literal ':'
  let minute ← part
  bounded 0 59 minute
  literal ':'
  let second ← part
  bounded 0 60 second
  let nanos ← fraction
  pure (hour, minute, second, nanos)

def restOfDate (part : Reading Nat) (year : Int) : Reading CalendarDate := do
  literal '-'
  let month ← part
  bounded 1 12 month
  literal '-'
  let day ← part
  bounded 1 31 day
  pure ⟨year, month, day⟩

def existing (f : Fields) (offset : Int) : Reading Instant :=
  match f.instant? offset with
  | some t => pure t
  | none => throw .outOfRange

def strict : Reading Instant := do
  let two := number 2 (some 2)
  let year ← number 4 (some 4)
  let d ← restOfDate two year
  let _ ← oneOf fun c => c == 'T' || c == 't' || c == ' '
  let (hour, minute, second, nanos) ← timeOfDay two
  let ahead ← offset
  finish
  existing ⟨d, hour, minute, second, nanos⟩ ahead

/-- The bounds of a year that is read, 2 ^ 31. -/
def yearLimit : Int := 0x80000000

/-- Reads a year after white space; with a sign it may have any number of digits. -/
def looseYear : Reading Int := do
  skip Unicode.isWhiteSpace
  let year : Int ← match ← optional fun c => c == '-' || c == '+' with
    | some c => do
      let n ← number 1 none
      pure (Number.signed (c == '-') n)
    | none => do
      let n ← number 1 (some 4)
      pure (n : Int)
  if -yearLimit ≤ year ∧ year < yearLimit then pure year else throw .outOfRange

def loose : Reading Instant := do
  let two : Reading Nat := do
    skip Unicode.isWhiteSpace
    number 1 (some 2)
  let year ← looseYear
  let d ← restOfDate two year
  literal 'T'
  let (hour, minute, second, nanos) ← timeOfDay two
  finish
  existing ⟨d, hour, minute, second, nanos⟩ 0

def parse (text : List Char) : Except Fault Instant :=
  match strict.run' text with
  | .ok t => .ok t
  | .error _ => loose.run' text

def faultMessage (text : String) (fault : Fault) : String :=
  "Parse error: " ++ text ++ ": " ++ fault.message

end DocQuery.Instant
