import DocQuery.Pattern
import DocQuery.Proofs.Refusal

/-!
Patterns and their literals. The flags of a pattern are letters, so the last slash of its
literal is the one that ends the source, whatever slashes the source itself has. A literal
is therefore read as the pattern that it was written for. A text that has no slash at its
beginning, or no second slash, is a source by itself.
-/

namespace DocQuery.Pattern

/-- The letters that flags are made of. -/
def flagLetters : List Char := ['i', 'm', 's', 'x', 'g', 'u']

/-- Any other letter is refused, whatever flags have been switched on before. -/
theorem switch_of_not_mem {letter : Char} (h : letter ∉ flagLetters) (flags : Regex.Flags) :
    switch flags letter = .error (.unknownFlag letter) := by
  unfold switch
  split <;> simp [flagLetters] at h ⊢

/-- The flags that are on, and with them those that the letters switch on. -/
def withLetters (flags : Regex.Flags) (letters : List Char) : Regex.Flags :=
  { flags with
    ignoreCase := flags.ignoreCase || letters.contains 'i'
    multiLine := flags.multiLine || letters.contains 'm'
    dotMatchesNewline := flags.dotMatchesNewline || letters.contains 's'
    spaced := flags.spaced || letters.contains 'x' }

theorem withLetters_nil (flags : Regex.Flags) : withLetters flags [] = flags := by
  simp [withLetters]

theorem withLetters_cons (flags : Regex.Flags) (letter : Char) (rest : List Char) :
    withLetters flags (letter :: rest) = withLetters (withLetters flags [letter]) rest := by
  simp only [withLetters, List.contains_cons, List.contains_nil, Bool.or_false, Bool.or_assoc]

theorem switch_of_mem {letter : Char} (h : letter ∈ flagLetters) (flags : Regex.Flags) :
    switch flags letter = .ok (withLetters flags [letter]) := by
  simp only [flagLetters, List.mem_cons, List.not_mem_nil, or_false] at h
  rcases h with rfl | rfl | rfl | rfl | rfl | rfl <;> simp [switch, withLetters]

/-- The first letter that is unknown decides; without one, the letters that there are do. -/
theorem foldlM_switch (letters : List Char) (flags : Regex.Flags) :
    letters.foldlM switch flags =
      match letters.find? (· ∉ flagLetters) with
      | some letter => .error (.unknownFlag letter)
      | none => .ok (withLetters flags letters) := by
  induction letters generalizing flags with
  | nil => exact congrArg Except.ok (withLetters_nil flags).symm
  | cons letter rest ih =>
    rw [List.foldlM_cons]
    by_cases hletter : letter ∈ flagLetters
    · rw [switch_of_mem hletter, List.find?_cons_of_neg (by simpa using hletter),
        withLetters_cons flags letter rest]
      exact ih (withLetters flags [letter])
    · rw [switch_of_not_mem hletter, List.find?_cons_of_pos (by simpa using hletter)]
      rfl

theorem find?_unknown_eq_none_iff {letters : List Char} :
    letters.find? (· ∉ flagLetters) = none ↔ letters ⊆ flagLetters := by
  simp only [List.find?_eq_none, decide_not, Bool.not_eq_true', decide_eq_false_iff_not, not_not,
    List.subset_def]

theorem mem_of_readFlags {letters : List Char} {flags : Regex.Flags}
    (h : readFlags letters = .ok flags) : ∀ c ∈ letters, c ∈ flagLetters := by
  rw [readFlags, foldlM_switch] at h
  cases hfind : letters.find? (· ∉ flagLetters) with
  | some letter =>
    rw [hfind] at h
    cases h
  | none => exact find?_unknown_eq_none_iff.mp hfind

theorem mem_flagLetters (p : Pattern) : ∀ c ∈ p.flags.toList, c ∈ flagLetters := by
  obtain ⟨flags, hflags, -⟩ := bind_eq_ok.1 p.readRegex_eq
  exact mem_of_readFlags hflags

theorem slash_not_mem_flags (p : Pattern) : '/' ∉ p.flags.toList := by
  intro hslash
  have hletter := p.mem_flagLetters '/' hslash
  simp [flagLetters] at hletter

theorem make_source_flags (p : Pattern) : make p.source p.flags = .ok p := by
  unfold make
  split
  · rename_i regex hregex
    exact congrArg Except.ok (ext_iff.mpr ⟨rfl, rfl⟩)
  · rename_i fault hfault
    rw [p.readRegex_eq] at hfault
    cases hfault

theorem source_flags_of_make {source flags : String} {p : Pattern} (h : make source flags = .ok p) :
    p.source = source ∧ p.flags = flags := by
  unfold make at h
  split at h
  · cases h
    exact ⟨rfl, rfl⟩
  · cases h

section Literals

variable {c : Char}

theorem splitAtLast?_of_not_mem {text : List Char} (h : c ∉ text) : splitAtLast? c text = none := by
  induction text with
  | nil => rfl
  | cons d rest ih =>
    have hne : d ≠ c := fun hd => h (by simp [hd])
    have hrest : c ∉ rest := fun hc => h (List.mem_cons_of_mem d hc)
    simp [splitAtLast?, ih hrest, hne]

/-- A text is split at a character that does not come again after it, however often it comes
before. -/
theorem splitAtLast?_append (left : List Char) {right : List Char} (h : c ∉ right) :
    splitAtLast? c (left ++ c :: right) = some (left, right) := by
  induction left with
  | nil => simp [splitAtLast?, splitAtLast?_of_not_mem h]
  | cons d rest ih => rw [List.cons_append, splitAtLast?, ih]

/-- Flags without slashes are those after the last slash. -/
theorem ofLiteral_slashes (source : String) {flags : String} (h : '/' ∉ flags.toList) :
    ofLiteral ("/" ++ source ++ "/" ++ flags) = make source flags := by
  have hchars : ("/" ++ source ++ "/" ++ flags).toList =
      '/' :: (source.toList ++ '/' :: flags.toList) := by
    simp
  unfold ofLiteral
  rw [hchars]
  simp only [splitAtLast?_append source.toList h, String.ofList_toList]

theorem ofLiteral_bare {text : String}
    (h : text.toList.head? ≠ some '/' ∨ text.toList.count '/' < 2) :
    ofLiteral text = make text "" := by
  unfold ofLiteral
  split
  · rename_i rest hchars
    have hrest : '/' ∉ rest := by
      simp only [hchars, List.head?_cons, List.count_cons_self, ne_eq, not_true_eq_false,
        false_or] at h
      rw [← List.count_eq_zero]
      omega
    rw [splitAtLast?_of_not_mem hrest]
  · rfl

end Literals

/-- The literal of a pattern is its source between slashes and its flags, and it is read as
this pattern. In general a text that begins with a slash and has another is read as what
stands between the first and the last, with what follows as flags, and is refused if these
are; any other text is read as a source without flags. -/
theorem literals_are_read_back :
    (∀ {source flags : String} {p : Pattern}, make source flags = .ok p →
      p.literalText = "/" ++ source ++ "/" ++ flags ∧
        ofLiteral ("/" ++ source ++ "/" ++ flags) = .ok p) ∧
    (∀ source flags : String, '/' ∉ flags.toList →
      ofLiteral ("/" ++ source ++ "/" ++ flags) = make source flags) ∧
    ∀ {text : String}, text.toList.head? ≠ some '/' ∨ text.toList.count '/' < 2 →
      ofLiteral text = make text "" := by
  refine ⟨?_, fun source flags hflags => ofLiteral_slashes source hflags, ofLiteral_bare⟩
  intro source flags p hmake
  obtain ⟨rfl, rfl⟩ := source_flags_of_make hmake
  refine ⟨rfl, ?_⟩
  rw [ofLiteral_slashes p.source p.slash_not_mem_flags, p.make_source_flags]

/-- A source that begins and ends with a slash, and has one after a backslash; an unknown flag
after two slashes; a single slash, and two of which none is the beginning. -/
theorem slashes_in_source_are_read_back :
    let slash : Regex := .chars (.single '/')
    let p : Pattern := ⟨"/\\//", "gm", .concat slash (.concat slash slash), rfl⟩
    ofLiteral "//\\///gm" = .ok p ∧ ofLiteral "//q" = .error (.unknownFlag 'q') ∧
      ofLiteral "/" = make "/" "" ∧ ofLiteral "a/i/" = make "a/i/" "" := by
  intro slash p
  obtain ⟨hpatterns, hslashes, hbare⟩ := literals_are_read_back
  refine ⟨?_, ?_, ?_, ?_⟩
  · exact (hpatterns p.make_source_flags).2
  · exact hslashes "" "q" (by decide)
  · exact hbare (Or.inr (by decide))
  · exact hbare (Or.inl (by decide))

end DocQuery.Pattern
