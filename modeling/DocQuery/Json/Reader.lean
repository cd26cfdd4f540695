import DocQuery.Instant.Reader
import DocQuery.Json.Float
import DocQuery.Value.Fields
/-!
Reading JSON text. What is made of the parts of a document is given by a `Builder`, so a document can be
read straight into any type. A text that is no document is either wrong at some place or ends too early;
of two faults the first one counts. At most a given number of containers may nest.
-/
namespace DocQuery.Json

inductive Fault where
  | endsEarly
  | wrong
deriving DecidableEq

/-- What is made of the parts of a document. -/
structure Builder (α : Type) where
  null : α
  bool : Bool → α
  /-- A number without point or exponent that fits 64 bits, signed or unsigned. -/
  integer : Int → α
  float : Number → α
  string : String → α
  array : List α → α
  object : List (String × α) → α

abbrev Reading := StateT (List Char) (Except Fault)

namespace Reading

def isSpace (c : Char) : Bool := c == ' ' || c == '\n' || c == '\t' || c == '\r'

/-- Moves past white space and gives the character after it, which is left. -/
def peekSpaced : Reading (Option Char) := fun text =>
  let text := text.dropWhile isSpace
  .ok (text.head?, text)

def advance : Reading Unit := fun text => .ok ((), text.tail)

def word : List Char → Reading Unit
  | [] => pure ()
  | c :: more => fun text =>
    match text with
    | [] => .error .endsEarly
    | d :: rest => if d = c then word more rest else .error .wrong

def hexValue? (c : Char) : Option Nat :=
  if '0' ≤ c ∧ c ≤ '9' then some (c.toNat - 48)
  else if 'a' ≤ c ∧ c ≤ 'f' then some (c.toNat - 87)
  else if 'A' ≤ c ∧ c ≤ 'F' then some (c.toNat - 55)
  else none

/-- Reads a unit of four hexadecimal digits. A text that has not four bytes left ends early. -/
def hexUnit : Reading Nat := fun text =>
  match text with
  | a :: b :: c :: d :: rest =>
    match hexValue? a, hexValue? b, hexValue? c, hexValue? d with
    | some a, some b, some c, some d => .ok (((a * 16 + b) * 16 + c) * 16 + d, rest)
    | _, _, _, _ => .error .wrong
  | _ => .error (if Instant.utf8Length text < 4 then .endsEarly else .wrong)

/-- Reads a character given by one hexadecimal unit, or by two that are a surrogate pair. -/
def unicodeEscape : Reading Char := do
  let unit ← hexUnit
  if 0xDC00 ≤ unit ∧ unit ≤ 0xDFFF then throw .wrong
  else if unit < 0xD800 ∨ 0xDBFF < unit then pure (Char.ofNat unit)
  else
    word ['\\', 'u']
    let second ← hexUnit
    if second < 0xDC00 ∨ 0xDFFF < second then throw .wrong
    else pure (Char.ofNat ((unit - 0xD800) * 0x400 + (second - 0xDC00) + 0x10000))

def escape : Reading Char := fun text =>
  match text with
  | [] => .error .endsEarly
  | '"' :: rest => .ok ('"', rest)
  | '\\' :: rest => .ok ('\\', rest)
  | '/' :: rest => .ok ('/', rest)
  | 'b' :: rest => .ok ('\u0008', rest)
  | 'f' :: rest => .ok ('\u000c', rest)
  | 'n' :: rest => .ok ('\n', rest)
  | 'r' :: rest => .ok ('\r', rest)
  | 't' :: rest => .ok ('\t', rest)
  | 'u' :: rest => unicodeEscape rest
  | _ => .error .wrong

/-- Reads characters up to the closing quote. `done` holds those that have been read, the last one
first; `fuel` bounds the number of steps. -/
def characters : Nat → List Char → Reading (List Char)
  | 0, _, _ => .error .endsEarly
  | fuel + 1, done, text =>
    match text with
    | [] => .error .endsEarly
    | '"' :: rest => .ok (done.reverse, rest)
    | '\\' :: rest =>
      match escape rest with
      | .ok (c, rest) => characters fuel (c :: done) rest
      | .error fault => .error fault
    | c :: rest => if c.toNat < 32 then .error .wrong else characters fuel (c :: done) rest

def string : Reading String := fun text =>
  match characters (text.length + 1) [] text with
  | .ok (cs, rest) => .ok (String.ofList cs, rest)
  | .error fault => .error fault

/-- The bound of significands, 2 ^ 64. -/
def significandLimit : Nat := 0x10000000000000000

/-- The number for a significand and an exponent; a number that is too large is wrong. -/
def scaled (negative : Bool) (significand : Nat) (exponent : Int) : Reading Number :=
  match scale significand exponent with
  | some n => pure (if negative then n.negate else n)
  | none => throw .wrong

/-- The bound of written exponents, 2 ^ 31. -/
def exponentLimit : Nat := 0x80000000

/-- Reads an exponent, after its letter, and scales the significand. An exponent beyond the bound is
wrong if the number would be too large; else the number is zero. -/
def exponentPart (negative : Bool) (significand : Nat) (exponent : Int) : Reading Number := do
  let (below, text) := match ← get with
    | '+' :: rest => (false, rest)
    | '-' :: rest => (true, rest)
    | rest => (false, rest)
  let digits := text.takeWhile Numeral.isDigit
  if digits.isEmpty then throw (if text.isEmpty then .endsEarly else .wrong)
  else
    set (text.drop digits.length)
    let written := Numeral.value digits
    if exponentLimit ≤ written then
      if significand ≠ 0 ∧ !below then throw .wrong
      else pure (if negative then Number.zero.negate else Number.zero)
    else scaled negative significand (exponent + Number.signed below written)

def afterPlaces (negative : Bool) (significand : Nat) (exponent : Int) : Reading Number := do
  match ← get with
  | 'e' :: rest | 'E' :: rest =>
    set rest
    exponentPart negative significand exponent
  | _ => scaled negative significand exponent

/-- Adds digits to a significand for as long as it stays within its bound, and gives the digits that
were not added. -/
def absorb (significand : Nat) : List Char → Nat × List Char
  | [] => (significand, [])
  | c :: rest =>
    let extended := significand * 10 + (c.toNat - 48)
    if extended < significandLimit then absorb extended rest else (significand, c :: rest)

/-- Reads the digits after a point. Those that do not fit the significand are passed over. -/
def places (negative : Bool) (significand : Nat) (exponent : Int) : Reading Number := do
  let text ← get
  let digits := text.takeWhile Numeral.isDigit
  let (extended, left) := absorb significand digits
  if digits.isEmpty then throw (if text.isEmpty then .endsEarly else .wrong)
  else
    set (text.drop digits.length)
    afterPlaces negative extended (exponent - (digits.length - left.length : Nat))

/-- The least whole number that keeps its exact value, -2 ^ 63. -/
def integerLeast : Int := -0x8000000000000000

/-- Reads a number, after its sign. A whole number beyond 64 bits, and zero with a sign, are made of
a significand and a power of ten. -/
def number {α : Type} (b : Builder α) (negative : Bool) : Reading α := do
  let text ← get
  let digits := text.takeWhile Numeral.isDigit
  if digits.isEmpty then throw (if text.isEmpty then .endsEarly else .wrong)
  else if digits.head? = some '0' ∧ 1 < digits.length then throw .wrong
  else
    let (significand, left) := absorb 0 digits
    let rest := text.drop digits.length
    match rest with
    | '.' :: after =>
      set after
      return b.float (← places negative significand left.length)
    | 'e' :: after | 'E' :: after =>
      set after
      return b.float (← exponentPart negative significand left.length)
    | _ =>
      set rest
      let whole := Number.signed negative significand
      if !left.isEmpty ∨ whole < integerLeast ∨ (negative ∧ significand = 0) then
        return b.float (← scaled negative significand left.length)
      else pure (b.integer whole)

/-- Reads the elements of an array, after its bracket. `done` holds those that have been read, the last
one first; `fuel` bounds their number. -/
def elements {α : Type} (element : Reading α) : Nat → List α → Reading (List α)
  | 0, _ => throw .endsEarly
  | fuel + 1, done => do
    match ← peekSpaced with
    | none => throw .endsEarly
    | some ']' =>
      advance
      pure done.reverse
    | some c =>
      if done.isEmpty then
        let item ← element
        elements element fuel [item]
      else if c = ',' then
        advance
        match ← peekSpaced with
        | none => throw .endsEarly
        | some ']' => throw .wrong
        | some _ =>
          let item ← element
          elements element fuel (item :: done)
      else throw .wrong

def field {α : Type} (element : Reading α) : Reading (String × α) := do
  match ← peekSpaced with
  | some '"' =>
    advance
    let key ← string
    match ← peekSpaced with
    | some ':' =>
      advance
      let item ← element
      pure (key, item)
    | some _ => throw .wrong
    | none => throw .endsEarly
  | some _ => throw .wrong
  | none => throw .endsEarly

/-- Reads the fields of an object, after its brace. -/
def fields {α : Type} (element : Reading α) : Nat → List (String × α) → Reading (List (String × α))
  | 0, _ => throw .endsEarly
  | fuel + 1, done => do
    match ← peekSpaced with
    | none => throw .endsEarly
    | some '\x7d' =>
      advance
      pure done.reverse
    | some c =>
      if done.isEmpty then
        let item ← field element
        fields element fuel [item]
      else if c = ',' then
        advance
        let item ← field element
        fields element fuel (item :: done)
      else throw .wrong

/-- Reads a value; `inner` reads the values in it, and is missing where no container may come. -/
def valueWith {α : Type} (b : Builder α) (inner : Option (Reading α)) : Reading α := do
  match ← peekSpaced with
  | none => throw .endsEarly
  | some 'n' =>
    advance
    word ['u', 'l', 'l']
    pure b.null
  | some 't' =>
    advance
    word ['r', 'u', 'e']
    pure (b.bool true)
  | some 'f' =>
    advance
    word ['a', 'l', 's', 'e']
    pure (b.bool false)
  | some '-' =>
    advance
    number b true
  | some '"' =>
    advance
    return b.string (← string)
  | some '[' =>
    match inner with
    | none => throw .wrong
    | some element =>
      advance
      return b.array (← elements element ((← get).length + 1) [])
  | some '\x7b' =>
    match inner with
    | none => throw .wrong
    | some element =>
      advance
      return b.object (Fields.ofPairs (← fields element ((← get).length + 1) []))
  | some c => if Numeral.isDigit c then number b false else throw .wrong

/-- Reads a value in which at most `room` containers nest. -/
def value {α : Type} (b : Builder α) : Nat → Reading α
  | 0 => valueWith b none
  | room + 1 => valueWith b (some (value b room))

def whole {α : Type} (b : Builder α) (room : Nat) : Reading α := do
  let result ← value b room
  match ← peekSpaced with
  | none => pure result
  | some _ => throw .wrong

end Reading

def nestLimit : Nat := 127

def read {α : Type} (b : Builder α) (room : Nat) (text : String) : Except Fault α :=
  (Reading.whole b room).run' text.toList

end DocQuery.Json
