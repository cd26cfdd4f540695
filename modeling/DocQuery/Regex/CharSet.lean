import DocQuery.Unicode.CaseFolding
import DocQuery.Unicode.Property
/-!
Sets of characters, as the bracketed classes and the escapes of a regular expression describe them.
-/
namespace DocQuery

inductive CharSet where
  | none
  | range (first last : Char)
  | property (property : Unicode.Property)
  | digits
  | spaces
  | words
  | union (a b : CharSet)
  | intersection (a b : CharSet)
  | difference (a b : CharSet)
  | symmetricDifference (a b : CharSet)
  | complement (a : CharSet)
  /-- The characters that have a case variant in the set. -/
  | folded (a : CharSet)
  /-- The characters that have a variant in the set by the case of ASCII letters. -/
  | foldedAscii (a : CharSet)
deriving DecidableEq

namespace CharSet

def single (c : Char) : CharSet := range c c

/-- The case variants of a character when only ASCII letters have case. -/
def asciiVariants (c : Char) : List Char := [c, c.toLower, c.toUpper]

def contains : CharSet → Char → Bool
  | none, _ => false
  | range first last, c => decide (first ≤ c ∧ c ≤ last)
  | property p, c => p.holds c
  | digits, c => Unicode.isDecimalDigit c
  | spaces, c => Unicode.isWhiteSpace c
  | words, c => Unicode.isWordCharacter c
  | union a b, c => a.contains c || b.contains c
  | intersection a b, c => a.contains c && b.contains c
  | difference a b, c => a.contains c && !b.contains c
  | symmetricDifference a b, c => a.contains c != b.contains c
  | complement a, c => !a.contains c
  | folded a, c => (Unicode.caseVariants c).any a.contains
  | foldedAscii a, c => (asciiVariants c).any a.contains

instance : Membership Char CharSet := ⟨fun s c => s.contains c = true⟩

instance (c : Char) (s : CharSet) : Decidable (c ∈ s) := inferInstanceAs (Decidable (s.contains c = true))

def ofRanges (ranges : List (Char × Char)) : CharSet :=
  ranges.foldr (fun (first, last) s => union (range first last) s) none

/-- The set has characters of ASCII only. A set that is made of ASCII ranges and complements has
either all characters beyond ASCII or none, so one stands for all. -/
def isAscii (s : CharSet) : Bool := !s.contains '\u0080'

/-- A bound on the number of runs of the set. -/
def runs : CharSet → Nat
  | none => 0
  | range .. => 1
  | property p => p.runs
  | digits => 64
  | spaces => 10
  | words => Unicode.BinaryProperty.alphabetic.partition.starts.size / 2
  | union a b | intersection a b | difference a b | symmetricDifference a b => a.runs + b.runs
  | complement a => a.runs + 1
  | folded a | foldedAscii a => 2 * a.runs

end CharSet
end DocQuery
