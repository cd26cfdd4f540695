import DocQuery.Regex.CharSet
/-!
Regular expressions. An expression describes words that stand in a text: besides the word itself the
two characters around it count, because a look asks about them.
-/
namespace DocQuery

/-- A condition on the place between two characters. -/
inductive Look where
  | start
  | finish
  | lineStart
  | lineFinish
  /-- Lines end in a line feed, a carriage return, or both in this order. -/
  | returnLineStart
  | returnLineFinish
  | wordBoundary (ascii : Bool)
  | noWordBoundary (ascii : Bool)
  | wordStart (ascii : Bool)
  | wordFinish (ascii : Bool)
  /-- No word character comes before. -/
  | wordStartHalf (ascii : Bool)
  /-- No word character comes after. -/
  | wordFinishHalf (ascii : Bool)
deriving DecidableEq

def isAsciiWordCharacter (c : Char) : Bool := c.isAlphanum || c == '_'

def isWordAt (ascii : Bool) : Option Char → Bool
  | none => false
  | some c => if ascii then isAsciiWordCharacter c else Unicode.isWordCharacter c

def Look.holds (before after : Option Char) : Look → Bool
  | start => before.isNone
  | finish => after.isNone
  | lineStart => before.isNone || before == some '\n'
  | lineFinish => after.isNone || after == some '\n'
  | returnLineStart =>
    before.isNone || before == some '\n' || (before == some '\r' && after != some '\n')
  | returnLineFinish =>
    after.isNone || after == some '\r' || (after == some '\n' && before != some '\r')
  | wordBoundary ascii => isWordAt ascii before != isWordAt ascii after
  | noWordBoundary ascii => isWordAt ascii before == isWordAt ascii after
  | wordStart ascii => !isWordAt ascii before && isWordAt ascii after
  | wordFinish ascii => isWordAt ascii before && !isWordAt ascii after
  | wordStartHalf ascii => !isWordAt ascii before
  | wordFinishHalf ascii => !isWordAt ascii after

inductive Regex where
  | empty
  | chars (set : CharSet)
  | look (condition : Look)
  | concat (first second : Regex)
  | either (first second : Regex)
  | repeated (least : Nat) (most : Option Nat) (body : Regex)
deriving DecidableEq

namespace Regex

def sequence (parts : List Regex) : Regex :=
  match parts with
  | [] => empty
  | [part] => part
  | part :: rest => concat part (sequence rest)

def choice (first : Regex) (rest : List Regex) : Regex :=
  match rest with
  | [] => first
  | second :: rest => either first (choice second rest)

end Regex
end DocQuery
