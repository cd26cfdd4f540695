import DocQuery.Regex.Reading
/-!
What a backslash and the characters after it stand for: a character, a set of characters, or a
condition on a place.
-/
namespace DocQuery.Regex

/-- What an escape stands for. -/
inductive Escaped where
  /-- A character; `byte` if it is written with exactly two hexadecimal digits. -/
  | literal (c : Char) (byte : Bool)
  | set (set : CharSet)
  | look (condition : Look)

namespace Reading

/-- The characters that have a meaning of their own somewhere in an expression. -/
def metaCharacters : List Char :=
  ['\\', '.', '+', '*', '?', '(', ')', '|', '[', ']', '\x7b', '\x7d', '^', '$', '#', '&', '-', '~']

def isEscapable (c : Char) : Bool :=
  metaCharacters.contains c ||
    (decide (c.toNat < 128) && !c.isAlphanum && c != '<' && c != '>')

def foldSet (flags : Flags) (set : CharSet) : CharSet :=
  if flags.ignoreCase then if flags.unicode then .folded set else .foldedAscii set else set

/-- Complements a set if that is asked for; a set of bytes has to stay within ASCII. -/
def negateSet (negated : Bool) (set : CharSet) : Reading CharSet := do
  let set := if negated then .complement set else set
  require ((← flags).unicode || set.isAscii)
  pure set

def hexValue? (c : Char) : Option Nat :=
  if '0' ≤ c ∧ c ≤ '9' then some (c.toNat - 48)
  else if 'a' ≤ c ∧ c ≤ 'f' then some (c.toNat - 87)
  else if 'A' ≤ c ∧ c ≤ 'F' then some (c.toNat - 55)
  else none

def hexCharacter (digits : List Char) : Reading Char := do
  let values := digits.filterMap hexValue?
  require (values.length == digits.length && !digits.isEmpty)
  let n := values.foldl (fun n d => n * 16 + d) 0
  if h : n.isValidChar then pure (Char.ofNatAux n h) else failure

/-- Takes a number of characters, moving past the space after each. -/
def takeExactly : Nat → Reading (List Char)
  | 0 => pure []
  | n + 1 => do
    let c ← nextSpaced
    return c :: (← takeExactly n)

def hexEscape (length : Nat) : Reading Escaped := do
  space
  match ← peek with
  | some '\x7b' =>
    let _ ← nextSpaced
    let digits ← takeAllSpaced (· != '\x7d')
    expect '\x7d'
    space
    return .literal (← hexCharacter digits) false
  | _ =>
    let digits ← takeExactly length
    return .literal (← hexCharacter digits) (length == 2)

/-- Splits a text at the first place where `mark` stands. -/
def splitAt? (mark : List Char) : List Char → Option (List Char × List Char)
  | [] => none
  | c :: rest =>
    if mark.isPrefixOf (c :: rest) then some ([], (c :: rest).drop mark.length)
    else (splitAt? mark rest).map fun (left, right) => (c :: left, right)

/-- The property that the text between braces names. -/
def namedProperty? (name : List Char) : Option Unicode.Property :=
  match splitAt? ['!', '='] name with
  | some (name, value) => Unicode.Property.ofValue? name value
  | none =>
    match splitAt? [':'] name with
    | some (name, value) => Unicode.Property.ofValue? name value
    | none =>
      match splitAt? ['='] name with
      | some (name, value) => Unicode.Property.ofValue? name value
      | none => Unicode.Property.ofName? name

/-- Reads the name of a property, after the letter that starts it. -/
def propertyEscape (negated : Bool) : Reading Escaped := do
  space
  let name ← match ← peek with
    | some '\x7b' => do
      let _ ← nextSpaced
      let name ← takeAllSpaced (· != '\x7d')
      expect '\x7d'
      pure name
    | _ => do
      let c ← nextSpaced
      require (c != '\\')
      pure [c]
  require (← flags).unicode
  match namedProperty? name with
  | some property => return .set (← negateSet negated (foldSet (← flags) (.property property)))
  | none => failure

def asciiDigits : CharSet := .range '0' '9'

def asciiSpaces : CharSet := .ofRanges [('\t', '\r'), (' ', ' ')]

def asciiWords : CharSet := .ofRanges [('0', '9'), ('A', 'Z'), ('_', '_'), ('a', 'z')]

/-- The set that one of the letters `d`, `s` and `w` stands for; the capital stands for the
complement. -/
def letterSet (letter : Char) : Reading CharSet := do
  let unicode := (← flags).unicode
  let set := match letter.toLower with
    | 'd' => if unicode then .digits else asciiDigits
    | 's' => if unicode then .spaces else asciiSpaces
    | _ => if unicode then .words else asciiWords
  negateSet letter.isUpper set

/-- A letter or a hyphen, as the names of word boundaries have them. -/
def isBoundaryLetter (c : Char) : Bool := c.isAlpha || c == '-'

/-- Reads what may stand in braces after the letter for a word boundary. Braces that do not hold a
name are left alone. -/
def wordBoundary : Reading Look := do
  let ascii := !(← flags).unicode
  match ← peek with
  | some '\x7b' =>
    let start ← rest
    let _ ← nextSpaced
    match ← peek with
    | none => failure
    | some c =>
      if isBoundaryLetter c then
        let name ← takeAllSpaced isBoundaryLetter
        expect '\x7d'
        match String.ofList name with
        | "start" => pure (.wordStart ascii)
        | "end" => pure (.wordFinish ascii)
        | "start-half" => pure (.wordStartHalf ascii)
        | "end-half" => pure (.wordFinishHalf ascii)
        | _ => failure
      else
        setRest start
        pure (.wordBoundary ascii)
  | _ => pure (.wordBoundary ascii)

def escape : Reading Escaped := do
  let c ← next
  let ascii := !(← flags).unicode
  if isEscapable c then pure (.literal c false)
  else match c with
    | 'x' => hexEscape 2
    | 'u' => hexEscape 4
    | 'U' => hexEscape 8
    | 'p' => propertyEscape false
    | 'P' => propertyEscape true
    | 'd' | 's' | 'w' | 'D' | 'S' | 'W' => return .set (← letterSet c)
    | 'a' => pure (.literal '\u0007' false)
    | 'f' => pure (.literal '\u000c' false)
    | 't' => pure (.literal '\t' false)
    | 'n' => pure (.literal '\n' false)
    | 'r' => pure (.literal '\r' false)
    | 'v' => pure (.literal '\u000b' false)
    | 'A' => pure (.look .start)
    | 'z' => pure (.look .finish)
    | 'b' => return .look (← wordBoundary)
    | 'B' => pure (.look (.noWordBoundary ascii))
    | '<' => pure (.look (.wordStart ascii))
    | '>' => pure (.look (.wordFinish ascii))
    | _ => failure

end Reading
end DocQuery.Regex
