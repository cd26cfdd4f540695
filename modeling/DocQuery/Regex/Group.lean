import DocQuery.Regex.Escape
/-!
What stands at the start of a group: nothing, a name, or flags. Flags alone in their parentheses hold
for what comes after them in the group around them. Looks at what lies ahead or behind are refused.
-/
namespace DocQuery.Regex

inductive GroupHead where
  /-- The group consists of flags, and these are on from here. -/
  | flagsAlone (flags : Flags)
  /-- A group goes on, in which these flags are on. -/
  | group (flags : Flags)

namespace Reading

def switch? (letter : Char) (on : Bool) (flags : Flags) : Option Flags :=
  match letter with
  | 'i' => some { flags with ignoreCase := on }
  | 'm' => some { flags with multiLine := on }
  | 's' => some { flags with dotMatchesNewline := on }
  | 'R' => some { flags with returnsEndLines := on }
  | 'u' => some { flags with unicode := on }
  | 'x' => some { flags with spaced := on }
  | 'U' => some flags
  | _ => none

/-- Reads flags up to a colon or a closing parenthesis, which is left. No letter and no hyphen may
come twice, and a hyphen may not come last. -/
def readFlags : Nat → List Char → Flags → Reading (List Char × Flags)
  | 0, _, _ => failure
  | fuel + 1, seen, flags => do
    match ← peek with
    | none => failure
    | some c =>
      if c = ':' ∨ c = ')' then
        require (seen.head? != some '-')
        pure (seen, flags)
      else
        require !seen.contains c
        advance
        if c = '-' then readFlags fuel (c :: seen) flags
        else match switch? c (!seen.contains '-') flags with
          | some flags => readFlags fuel (c :: seen) flags
          | none => failure

def isNameCharacter (first : Bool) (c : Char) : Bool :=
  if first then c == '_' || Unicode.isAlphabetic c
  else c == '_' || c == '.' || c == '[' || c == ']' || Unicode.isAlphanumeric c

/-- Takes a name that no other group has, and the angle bracket after it. -/
def groupName : Reading Unit := do
  let text ← rest
  let name := text.takeWhile (· != '>')
  setRest (text.drop name.length)
  expect '>'
  match name with
  | [] => failure
  | first :: others =>
    require (isNameCharacter true first && others.all (isNameCharacter false))
    let names := (← get).names
    require !names.contains name
    modify ({ · with names := name :: names })

def groupHead : Reading GroupHead := do
  space
  let outer ← flags
  let text ← rest
  require !([['?', '='], ['?', '!'], ['?', '<', '='], ['?', '<', '!']].any (·.isPrefixOf text))
  if ← accept ['?', 'P', '<'] then
    groupName
    pure (.group outer)
  else if ← accept ['?', '<'] then
    groupName
    pure (.group outer)
  else if ← accept ['?'] then
    let (seen, flags) ← readFlags (text.length + 1) [] outer
    if (← next) = ')' then
      require !seen.isEmpty
      pure (.flagsAlone flags)
    else pure (.group flags)
  else pure (.group outer)

end Reading
end DocQuery.Regex
