import DocQuery.Regex.Size
import DocQuery.Numeral
/-!
What reading a regular expression keeps track of: the rest of the source, the flags that are on, and
the names that groups have been given. Reading fails on a source that is no regular expression; why it
fails is not told.
-/
namespace DocQuery.Regex

structure Flags where
  ignoreCase : Bool := false
  multiLine : Bool := false
  dotMatchesNewline : Bool := false
  returnsEndLines : Bool := false
  unicode : Bool := true
  /-- White space and comments stand for nothing. -/
  spaced : Bool := false

structure ReadingState where
  rest : List Char
  flags : Flags
  names : List (List Char)

/-- Reading takes from the front of the source. -/
abbrev Reading := StateT ReadingState Option

/-- How deep the constructs of an expression may nest. -/
def nestLimit : Nat := 250

namespace Reading

def rest : Reading (List Char) := return (← get).rest

def flags : Reading Flags := return (← get).flags

def setRest (text : List Char) : Reading Unit := modify ({ · with rest := text })

def setFlags (flags : Flags) : Reading Unit := modify ({ · with flags := flags })

def peek : Reading (Option Char) := return (← rest).head?

def advance : Reading Unit := do setRest (← rest).tail

def next : Reading Char := do
  match ← rest with
  | [] => failure
  | c :: text =>
    setRest text
    pure c

/-- What is left of a text after white space and comments, of which `fuel` bounds the number. -/
def skipSpace : Nat → List Char → List Char
  | 0, text => text
  | fuel + 1, text =>
    match text.dropWhile Unicode.isWhiteSpace with
    | '#' :: comment => skipSpace fuel ((comment.dropWhile (· != '\n')).drop 1)
    | other => other

/-- Moves past white space and comments, if they stand for nothing. -/
def space : Reading Unit := do
  if (← flags).spaced then
    let text ← rest
    setRest (skipSpace text.length text)

def nextSpaced : Reading Char := do
  let c ← next
  space
  pure c

/-- Takes the text if the source goes on with it. -/
def accept (text : List Char) : Reading Bool := do
  let source ← rest
  if text.isPrefixOf source then
    setRest (source.drop text.length)
    pure true
  else pure false

def require (holds : Bool) : Reading Unit := if holds then pure () else failure

def expect (c : Char) : Reading Unit := do require (← accept [c])

/-- Takes characters for as long as they belong to a class, moving past the space after each. -/
def takeSpaced (among : Char → Bool) : Nat → Reading (List Char)
  | 0 => pure []
  | fuel + 1 => do
    match ← peek with
    | some c =>
      if among c then
        let _ ← nextSpaced
        return c :: (← takeSpaced among fuel)
      else pure []
    | none => pure []

def takeAllSpaced (among : Char → Bool) : Reading (List Char) := do
  takeSpaced among (← rest).length

/-- Moves past white space, even where it stands for something. -/
def anySpace : Reading Unit := do setRest ((← rest).dropWhile Unicode.isWhiteSpace)

/-- The largest number of repetitions that can be asked for. -/
def countLimit : Nat := 0xFFFFFFFF

def count : Reading Nat := do
  anySpace
  let digits ← takeAllSpaced Numeral.isDigit
  let _ ← takeAllSpaced Unicode.isWhiteSpace
  require !digits.isEmpty
  let n := Numeral.value digits
  require (decide (n ≤ countLimit))
  pure n

end Reading
end DocQuery.Regex
