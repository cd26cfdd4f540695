import DocQuery.Regex.Escape
/-!
Bracketed classes: characters, ranges, escapes, named classes and further brackets side by side, and
intersections, differences and symmetric differences of such unions, which are taken from left to
right. Every class comes with the depth to which its constructs nest.
-/
namespace DocQuery.Regex

/-- A set of characters and the depth of its description. -/
structure NestedSet where
  set : CharSet
  nest : Nat

namespace NestedSet

/-- The union of the members of a class; one member alone is no union. -/
def union (members : List NestedSet) : NestedSet :=
  match members with
  | [] => ⟨.none, 0⟩
  | [member] => member
  | members =>
    ⟨members.foldl (fun set member => .union set member.set) .none,
      members.foldl (fun nest member => max nest member.nest) 0 + 1⟩

end NestedSet

/-- An operation between the unions of a class. -/
inductive SetOperation where
  | intersection
  | difference
  | symmetricDifference

def SetOperation.apply : SetOperation → CharSet → CharSet → CharSet
  | intersection => .intersection
  | difference => .difference
  | symmetricDifference => .symmetricDifference

namespace Reading

/-- The members of a named class of ASCII characters. -/
def namedRanges? (name : String) : Option (List (Char × Char)) :=
  match name with
  | "alnum" => some [('0', '9'), ('A', 'Z'), ('a', 'z')]
  | "alpha" => some [('A', 'Z'), ('a', 'z')]
  | "ascii" => some [('\u0000', '\u007f')]
  | "blank" => some [('\t', '\t'), (' ', ' ')]
  | "cntrl" => some [('\u0000', '\u001f'), ('\u007f', '\u007f')]
  | "digit" => some [('0', '9')]
  | "graph" => some [('!', '~')]
  | "lower" => some [('a', 'z')]
  | "print" => some [(' ', '~')]
  | "punct" => some [('!', '/'), (':', '@'), ('[', '\u0060'), ('\x7b', '~')]
  | "space" => some [('\t', '\r'), (' ', ' ')]
  | "upper" => some [('A', 'Z')]
  | "word" => some [('0', '9'), ('A', 'Z'), ('_', '_'), ('a', 'z')]
  | "xdigit" => some [('0', '9'), ('A', 'F'), ('a', 'f')]
  | _ => none

/-- Whether a named class starts with its complement sign, its members, and the text after it. -/
def namedClass? (text : List Char) : Option (Bool × List (Char × Char) × List Char) :=
  match text with
  | '[' :: ':' :: body =>
    let (negated, body) := match body with
      | '^' :: rest => (true, rest)
      | rest => (false, rest)
    match body.dropWhile (· != ':') with
    | ':' :: ']' :: rest =>
      (namedRanges? (String.ofList (body.takeWhile (· != ':')))).map fun ranges => (negated, ranges, rest)
    | _ => none
  | _ => none

/-- A member of a class that may be an end of a range. -/
inductive Member where
  | character (c : Char)
  | set (set : CharSet)

/-- Reads one member; a condition on a place is none. -/
def member : Reading Member := do
  let c ← next
  if c = '\\' then
    match ← escape with
    | .literal c _ => pure (.character c)
    | .set set => pure (.set set)
    | .look _ => failure
  else pure (.character c)

/-- A character as an end of a range or as a member by itself. -/
def characterOf (m : Member) : Reading Char := do
  match m with
  | .character c =>
    require ((← flags).unicode || decide (c.toNat < 128))
    pure c
  | .set _ => failure

/-- The text after a hyphen goes on with this character, past any space. -/
def followsHyphen (c : Char) : Reading Bool := do
  let text := (← rest).drop 1
  if (← flags).spaced then
    let text := text.dropWhile Unicode.isWhiteSpace
    let text := match text with
      | '#' :: comment => comment.dropWhile Unicode.isWhiteSpace
      | other => other
    pure (text.head? == some c)
  else pure (text.head? == some c)

def memberOrRange : Reading CharSet := do
  let first ← member
  space
  let c ← peek
  require c.isSome
  if c ≠ some '-' ∨ (← followsHyphen ']') ∨ (← followsHyphen '-') then
    match first with
    | .character _ => return .single (← characterOf first)
    | .set set => pure set
  else
    let _ ← nextSpaced
    let last ← member
    let first ← characterOf first
    let last ← characterOf last
    require (decide (first ≤ last))
    pure (.range first last)

/-- Takes hyphens that stand for themselves at the start of a class. -/
def leadingHyphens : Nat → Reading (List NestedSet)
  | 0 => pure []
  | fuel + 1 => do
    if (← peek) = some '-' then
      let _ ← nextSpaced
      return ⟨.single '-', 0⟩ :: (← leadingHyphens fuel)
    else pure []

/-- Reads the start of a class after its bracket: whether it is a complement, and the characters that
stand for themselves only here. -/
def openClass : Reading (Bool × List NestedSet) := do
  space
  let negated ← accept ['^']
  if negated then space
  let hyphens ← leadingHyphens (← rest).length
  if hyphens.isEmpty && (← peek) == some ']' then
    let _ ← nextSpaced
    pure (negated, [⟨.single ']', 0⟩])
  else pure (negated, hyphens)

/-- Joins the union read so far to what stands before the operation. -/
def joinUnion (flags : Flags) (before : Option (NestedSet × SetOperation)) (members : List NestedSet) :
    NestedSet :=
  let right := NestedSet.union members.reverse
  match before with
  | none => right
  | some (left, operation) =>
    ⟨operation.apply (foldSet flags left.set) (foldSet flags right.set), max left.nest right.nest + 1⟩

def closeClass (negated : Bool) (content : NestedSet) : Reading NestedSet := do
  let set ← negateSet negated (foldSet (← flags) content.set)
  pure ⟨set, content.nest + 1⟩

/-- The operation between unions that the text starts with. -/
def operation? : List Char → Option SetOperation
  | '&' :: '&' :: _ => some .intersection
  | '-' :: '-' :: _ => some .difference
  | '~' :: '~' :: _ => some .symmetricDifference
  | _ => none

/-- Reads the rest of a class up to its closing bracket. `members` are those of the union that is
being read, the last one first. -/
def classContent : Nat → Option (NestedSet × SetOperation) → List NestedSet → Reading NestedSet
  | 0, _, _ => failure
  | fuel + 1, before, members => do
    space
    let text ← rest
    match namedClass? text with
    | some (negated, ranges, after) =>
      setRest after
      let set ← negateSet negated (foldSet (← flags) (.ofRanges ranges))
      classContent fuel before (⟨set, 0⟩ :: members)
    | none =>
      match operation? text with
      | some operation =>
        setRest (text.drop 2)
        classContent fuel (some (joinUnion (← flags) before members, operation)) []
      | none =>
        match text with
        | [] => failure
        | '[' :: after =>
          setRest after
          let (negated, start) ← openClass
          let content ← classContent fuel none start.reverse
          let inner ← closeClass negated content
          classContent fuel before (inner :: members)
        | ']' :: after =>
          setRest after
          pure (joinUnion (← flags) before members)
        | _ =>
          let set ← memberOrRange
          classContent fuel before (⟨set, 0⟩ :: members)

def bracketed : Reading NestedSet := do
  let (negated, start) ← openClass
  let content ← classContent (← rest).length none start.reverse
  closeClass negated content

end Reading
end DocQuery.Regex
