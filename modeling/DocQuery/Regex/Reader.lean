import DocQuery.Regex.Bracket
import DocQuery.Regex.Group
/-!
Reading a regular expression. Alternatives are split by bars, each of them is a sequence of items, and
an item may be followed by repetitions. Flags that a sequence switches stay switched in the
alternatives after it, up to the end of the group.
-/
namespace DocQuery.Regex

structure Item where
  regex : Regex
  /-- How deep its constructs nest. -/
  nest : Nat
  /-- It can be repeated; flags alone cannot. -/
  repeatable : Bool

namespace Item

def simple (regex : Regex) : Item := ⟨regex, 0, true⟩

def depth (parts : List Item) : Nat := parts.foldl (fun nest part => max nest part.nest) 0

/-- The parts one after the other; one part alone is no sequence. -/
def sequence (parts : List Item) : Item :=
  match parts with
  | [] => simple .empty
  | [part] => part
  | parts => ⟨Regex.sequence (parts.map Item.regex), depth parts + 1, true⟩

/-- Any of the alternatives; one alone is no choice. -/
def choice (first : Item) (rest : List Item) : Item :=
  match rest with
  | [] => first
  | rest => ⟨Regex.choice first.regex (rest.map Item.regex), max first.nest (depth rest) + 1, true⟩

def grouped (body : Item) : Item := ⟨body.regex, body.nest + 1, true⟩

end Item

namespace Reading

def characterItem (c : Char) (byte : Bool) : Reading Regex := do
  let flags ← flags
  require (flags.unicode || !byte || decide (c.toNat < 128))
  pure (.chars (foldSet flags (.single c)))

/-- The expression for a point: any character, or any that does not end a line. -/
def anyCharacter : Reading Regex := do
  let flags ← flags
  require flags.unicode
  if flags.dotMatchesNewline then pure (.chars (.complement .none))
  else if flags.returnsEndLines then pure (.chars (.complement (.union (.single '\n') (.single '\r'))))
  else pure (.chars (.complement (.single '\n')))

/-- The condition that a caret stands for. -/
def startLook (flags : Flags) : Look :=
  if flags.multiLine then if flags.returnsEndLines then .returnLineStart else .lineStart else .start

/-- The condition that a dollar sign stands for. -/
def finishLook (flags : Flags) : Look :=
  if flags.multiLine then if flags.returnsEndLines then .returnLineFinish else .lineFinish else .finish

def primitive : Reading Item := do
  match ← next with
  | '\\' =>
    match ← escape with
    | .literal c byte => return .simple (← characterItem c byte)
    | .set set => pure (.simple (.chars set))
    | .look condition => pure (.simple (.look condition))
  | '[' => do
    let content ← bracketed
    pure ⟨.chars content.set, content.nest, true⟩
  | '.' => return .simple (← anyCharacter)
  | '^' => return .simple (.look (startLook (← flags)))
  | '$' => return .simple (.look (finishLook (← flags)))
  | c => return .simple (← characterItem c false)

def bounds : Reading (Nat × Option Nat) := do
  space
  let least ← count
  let c ← next
  if c = ',' then
    space
    if (← peek) = some '\x7d' then
      advance
      pure (least, none)
    else
      let most ← count
      expect '\x7d'
      require (decide (least ≤ most))
      pure (least, some most)
  else
    require (c == '\x7d')
    pure (least, some least)

def repetition (c : Char) : Reading (Nat × Option Nat) :=
  match c with
  | '?' => pure (0, some 1)
  | '*' => pure (0, none)
  | '+' => pure (1, none)
  | _ => bounds

def startsRepetition (c : Char) : Bool := c == '?' || c == '*' || c == '+' || c == '\x7b'

/-- Reads alternatives up to the end of the group. `done` holds the alternatives that have been read
and `items` the items of the one that is being read, the last ones first. -/
def alternatives : Nat → List Item → List Item → Reading Item
  | 0, _, _ => failure
  | fuel + 1, done, items => do
    space
    let close (_ : Unit) : Item :=
      match (Item.sequence items.reverse :: done).reverse with
      | [] => .simple .empty
      | first :: rest => .choice first rest
    match ← peek with
    | none => pure (close ())
    | some ')' => pure (close ())
    | some '|' =>
      advance
      alternatives fuel (Item.sequence items.reverse :: done) []
    | some '(' =>
      advance
      let outer ← flags
      match ← groupHead with
      | .flagsAlone flags =>
        setFlags flags
        alternatives fuel done (⟨.empty, 0, false⟩ :: items)
      | .group flags =>
        setFlags flags
        let body ← alternatives fuel [] []
        expect ')'
        setFlags outer
        alternatives fuel done (body.grouped :: items)
    | some c =>
      if startsRepetition c then
        match items with
        | [] => failure
        | item :: items =>
          require item.repeatable
          advance
          let (least, most) ← repetition c
          if c = '\x7b' then space
          let _ ← accept ['?']
          alternatives fuel done (⟨.repeated least most item.regex, item.nest + 1, true⟩ :: items)
      else
        let item ← primitive
        alternatives fuel done (item :: items)

def whole : Reading Regex := do
  let item ← alternatives ((← rest).length + 1) [] []
  require (← rest).isEmpty
  require (decide (item.nest ≤ nestLimit))
  require (decide (item.regex.bytes ≤ bytesLimit))
  pure item.regex

end Reading

/-- The expression that a source describes with these flags on, if it is one. -/
def ofSource? (flags : Flags) (source : List Char) : Option Regex :=
  Reading.whole.run' ⟨source, flags, []⟩

end DocQuery.Regex
