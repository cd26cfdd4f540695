import DocQuery.Regex.Matching
import DocQuery.Regex.Reader
/-!
Patterns: a regular expression together with the source and the flags that it was read from. A pattern
carries the proof that it was, so two patterns are the same exactly when they have the same source and
the same flags.
-/
namespace DocQuery

inductive PatternFault where
  | invalid
  | unknownFlag (flag : Char)
deriving DecidableEq

def PatternFault.message : PatternFault → String
  | invalid => "invalid pattern"
  | unknownFlag flag => "unknown pattern flag '" ++ String.singleton flag ++ "'"

namespace Pattern

/-- Switches the flag with a letter on. The flags `g` and `u` change nothing. -/
def switch (flags : Regex.Flags) (letter : Char) : Except PatternFault Regex.Flags :=
  match letter with
  | 'i' => .ok { flags with ignoreCase := true }
  | 'm' => .ok { flags with multiLine := true }
  | 's' => .ok { flags with dotMatchesNewline := true }
  | 'x' => .ok { flags with spaced := true }
  | 'g' | 'u' => .ok flags
  | other => .error (.unknownFlag other)

def readFlags (letters : List Char) : Except PatternFault Regex.Flags := letters.foldlM switch {}

/-- The expression that a source and flags stand for. Flags are looked at first. -/
def readRegex (source flags : String) : Except PatternFault Regex := do
  let flags ← readFlags flags.toList
  match Regex.ofSource? flags source.toList with
  | some regex => .ok regex
  | none => .error .invalid

end Pattern

structure Pattern where
  source : String
  flags : String
  regex : Regex
  readRegex_eq : Pattern.readRegex source flags = .ok regex

namespace Pattern

theorem ext_iff {p q : Pattern} : p = q ↔ p.source = q.source ∧ p.flags = q.flags := by
  constructor
  · rintro rfl
    exact ⟨rfl, rfl⟩
  · obtain ⟨s, f, r, hr⟩ := p
    obtain ⟨t, g, r', hr'⟩ := q
    rintro ⟨hs, hf⟩
    simp only at hs hf
    subst hs hf
    rw [hr] at hr'
    cases hr'
    rfl

instance : DecidableEq Pattern := fun _ _ => decidable_of_iff _ ext_iff.symm

def make (source flags : String) : Except PatternFault Pattern :=
  match h : readRegex source flags with
  | .ok regex => .ok ⟨source, flags, regex, h⟩
  | .error fault => .error fault

/-- Some part of the text matches. -/
def isMatch (p : Pattern) (text : String) : Bool := p.regex.matchesIn text.toList

/-- The text before and after the last `c`. -/
def splitAtLast? (c : Char) : List Char → Option (List Char × List Char)
  | [] => none
  | d :: rest =>
    match splitAtLast? c rest with
    | some (left, right) => some (d :: left, right)
    | none => if d = c then some ([], rest) else none

/-- Reads a source between slashes with flags after the last one; any other text is a source without
flags. -/
def ofLiteral (text : String) : Except PatternFault Pattern :=
  match text.toList with
  | '/' :: rest =>
    match splitAtLast? '/' rest with
    | some (source, flags) => make (String.ofList source) (String.ofList flags)
    | none => make text ""
  | _ => make text ""

def literalText (p : Pattern) : String := "/" ++ p.source ++ "/" ++ p.flags

end Pattern
end DocQuery
