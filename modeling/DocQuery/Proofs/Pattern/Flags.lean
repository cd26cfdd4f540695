import DocQuery.Proofs.Pattern
import DocQuery.Value.Equality

/-!
The flags of a pattern as a set of letters. Four of the letters switch something on, and what
a pattern matches is decided by which of these its flags have, in whatever order and however
often. As values two patterns are equal only if their flags are the same text. A letter that is
unknown is refused whatever the source is, since flags are looked at first.
-/

namespace DocQuery.Pattern

/-- The letters that switch something on. -/
def optionLetters : List Char := ['i', 'm', 's', 'x']

theorem withLetters_congr {letters others : List Char}
    (h : ∀ c ∈ optionLetters, c ∈ letters ↔ c ∈ others) (flags : Regex.Flags) :
    withLetters flags letters = withLetters flags others := by
  have hcontains : ∀ c ∈ optionLetters, letters.contains c = others.contains c := by
    intro c hc
    rw [Bool.eq_iff_iff, List.contains_iff_mem, List.contains_iff_mem]
    exact h c hc
  simp only [optionLetters, List.forall_mem_cons] at hcontains
  obtain ⟨hi, hm, hs, hx, -⟩ := hcontains
  rw [withLetters, withLetters, hi, hm, hs, hx]

section Making

variable {source flags : String}

theorem map_regex_make (source flags : String) :
    (make source flags).map regex = readRegex source flags := by
  unfold make
  split
  · rename_i regex hregex
    exact hregex.symm
  · rename_i fault hfault
    exact hfault.symm

/-- With flags that are known, a pattern is made exactly of a source that is an expression. -/
theorem readRegex_of_subset (h : flags.toList ⊆ flagLetters) :
    readRegex source flags =
      (Regex.ofSource? (withLetters {} flags.toList) source.toList).elim (.error .invalid) .ok := by
  rw [readRegex, readFlags, foldlM_switch, find?_unknown_eq_none_iff.mpr h]
  simp only [bind, Except.bind]
  cases Regex.ofSource? (withLetters {} flags.toList) source.toList <;> rfl

theorem map_regex_make_of_subset (h : flags.toList ⊆ flagLetters) :
    (make source flags).map regex =
      (Regex.ofSource? (withLetters {} flags.toList) source.toList).elim (.error .invalid) .ok := by
  rw [map_regex_make, readRegex_of_subset h]

theorem readRegex_of_find? {letter : Char}
    (h : flags.toList.find? (· ∉ flagLetters) = some letter) :
    readRegex source flags = .error (.unknownFlag letter) := by
  rw [readRegex, readFlags, foldlM_switch, h]
  rfl

theorem make_eq_error_iff {fault : PatternFault} :
    make source flags = .error fault ↔ readRegex source flags = .error fault := by
  rw [← map_regex_make]
  cases make source flags <;> simp [Except.map]

/-- The first letter that is unknown is what the flags are refused for. -/
theorem make_eq_unknownFlag_iff {letter : Char} :
    make source flags = .error (.unknownFlag letter) ↔
      flags.toList.find? (· ∉ flagLetters) = some letter := by
  rw [make_eq_error_iff]
  cases hfind : flags.toList.find? (· ∉ flagLetters) with
  | some first => simp [readRegex_of_find? hfind]
  | none =>
    rw [readRegex_of_subset (find?_unknown_eq_none_iff.mp hfind)]
    cases Regex.ofSource? (withLetters {} flags.toList) source.toList <;> simp

end Making

theorem equal_regex_iff (p q : Pattern) :
    (Value.regex p).equal (.regex q) = true ↔ p.source = q.source ∧ p.flags = q.flags := by
  rw [Value.equal, decide_eq_true_iff, ext_iff]

/-- Made with letters that are known, a pattern is the expression that its source describes
with those options on whose letters occur, and it is refused if there is none. So for one source,
flags that have the same of the four letters are both refused or both give patterns; these match
the same texts, but they are equal only if the flags are the same text. Any other letter is
refused, and the first of these is named, whatever the source is. -/
theorem flags_are_set_of_letters :
    (∀ source flags : String, flags.toList ⊆ flagLetters →
      (make source flags).map regex =
        (Regex.ofSource? (withLetters {} flags.toList) source.toList).elim (.error .invalid) .ok) ∧
    (∀ source flags others : String, flags.toList ⊆ flagLetters → others.toList ⊆ flagLetters →
      (∀ c ∈ optionLetters, c ∈ flags.toList ↔ c ∈ others.toList) →
      Alike
        (fun p q => (∀ text, p.isMatch text = q.isMatch text) ∧
          ((Value.regex p).equal (.regex q) = true ↔ flags = others))
        (make source flags) (make source others)) ∧
    ∀ (source flags : String) (letter : Char),
      make source flags = .error (.unknownFlag letter) ↔
        flags.toList.find? (· ∉ flagLetters) = some letter := by
  refine ⟨fun _ _ => map_regex_make_of_subset, ?_, fun _ _ _ => make_eq_unknownFlag_iff⟩
  intro source flags others hflags hothers hsame
  refine Alike.of_map_eq (f := regex) (g := regex) ?_ ?_
  · rw [map_regex_make_of_subset hflags, map_regex_make_of_subset hothers,
      withLetters_congr hsame]
  · intro p q hp hq hpq
    refine ⟨fun text => ?_, ?_⟩
    · rw [isMatch, isMatch, hpq]
    · obtain ⟨hsource, rfl⟩ := source_flags_of_make hp
      obtain ⟨hsource', rfl⟩ := source_flags_of_make hq
      rw [equal_regex_iff, hsource, hsource']
      exact and_iff_right rfl

/-- Four letters in another order, one of them twice, among the two that change nothing; and an
unknown letter after a known one and before another unknown one, with a source that is no
expression. -/
theorem repeated_flags_match_alike :
    (∃ p q, make "^b .c" "xmis" = .ok p ∧ make "^b .c" "gssimux" = .ok q ∧
      p.isMatch "a\nB\nC" = true ∧ q.isMatch "a\nB\nC" = true ∧
      (Value.regex p).equal (.regex q) = false) ∧
      make "(" "iqé" = .error (.unknownFlag 'q') := by
  obtain ⟨-, halike, hunknown⟩ := flags_are_set_of_letters
  refine ⟨?_, (hunknown "(" "iqé" 'q').mpr (by decide)⟩
  have hread : ∃ regex, readRegex "^b .c" "xmis" = .ok regex ∧
      regex.matchesIn "a\nB\nC".toList = true := by
    let b : Regex := .chars (.folded (.single 'b'))
    let c : Regex := .chars (.folded (.single 'c'))
    let anything : Regex := .chars (.complement .none)
    exact ⟨.concat (.look .lineStart) (.concat b (.concat anything c)), by decide +kernel,
      by decide +kernel⟩
  obtain ⟨regex, hregex, hfound⟩ := hread
  have hp := make_source_flags ⟨"^b .c", "xmis", regex, hregex⟩
  have hsame : ∀ c ∈ optionLetters, c ∈ "xmis".toList ↔ c ∈ "gssimux".toList := by
    simp [optionLetters]
  have hpq := halike "^b .c" "xmis" "gssimux" (by decide) (by decide) hsame
  obtain ⟨q, hq⟩ := hpq.exists_iff.mp ⟨_, hp⟩
  obtain ⟨hmatch, hequal⟩ := hpq.related hp hq
  refine ⟨_, q, hp, hq, hfound, (hmatch _).symm.trans hfound, ?_⟩
  rw [Bool.eq_false_iff, Ne, hequal]
  decide

end DocQuery.Pattern
