import DocQuery.Operator.Registry
import DocQuery.Path

/-!
Paths and their segments. A text is cut at its points as the library cuts lists,
so joining segments that have no points is undone by cutting. A text is no path
exactly if one of its parts is empty, which its points show: one of them stands at
an end, or next to another. The first character of a path is that of its first
segment.
-/

namespace DocQuery.Path

/-- The text can be a segment: it has a character, and none is a point. -/
def IsSegment (text : String) : Prop := text ≠ "" ∧ '.' ∉ text.toList

theorem parts_eq_splitOn (text : List Char) : parts text = text.splitOn '.' := by
  induction text with
  | nil => rfl
  | cons c rest ih =>
    rw [parts, ih, List.splitOn_cons_eq_if_modifyHead]
    by_cases hc : c = '.'
    · simp only [hc, beq_self_eq_true, if_true]
    · have hne : (c == '.') = false := beq_eq_false_iff_ne.2 hc
      obtain ⟨part, others, hsplit⟩ := List.exists_cons_of_ne_nil (List.splitOn_ne_nil '.' rest)
      simp only [hc, hne, hsplit, Bool.false_eq_true, if_false, List.modifyHead_cons]

theorem parts_ne_nil (text : List Char) : parts text ≠ [] := by
  rw [parts_eq_splitOn]
  exact List.splitOn_ne_nil '.' text

theorem not_mem_of_mem_parts {part text : List Char} (h : part ∈ parts text) : '.' ∉ part := by
  induction text generalizing part with
  | nil =>
    rw [List.mem_singleton.1 h]
    exact List.not_mem_nil
  | cons c rest ih =>
    rw [parts] at h
    by_cases hc : c = '.'
    · rw [if_pos hc] at h
      rcases List.mem_cons.1 h with rfl | hpart
      · exact List.not_mem_nil
      · exact ih hpart
    · obtain ⟨first, others, hparts⟩ := List.exists_cons_of_ne_nil (parts_ne_nil rest)
      rw [hparts] at ih
      rw [if_neg hc, hparts] at h
      rcases List.mem_cons.1 h with rfl | hpart
      · have hfirst : '.' ∉ first := ih List.mem_cons_self
        rw [List.mem_cons, not_or]
        exact ⟨Ne.symm hc, hfirst⟩
      · exact ih (List.mem_cons_of_mem _ hpart)

theorem parts_of_not_mem {text : List Char} (h : '.' ∉ text) : parts text = [text] := by
  rw [parts_eq_splitOn]
  exact List.splitOn_eq_singleton h

theorem parts_ofList {text : List Char} (h : '.' ∉ text) :
    parts (String.ofList text).toList = [text] := by
  rw [String.toList_ofList, parts_of_not_mem h]

theorem toList_join (segments : List String) :
    (join segments).toList = List.intercalate ['.'] (segments.map String.toList) :=
  String.toList_ofList

theorem parts_join {segments : List String} (hne : segments ≠ [])
    (h : ∀ s ∈ segments, IsSegment s) :
    parts (join segments).toList = segments.map String.toList := by
  rw [parts_eq_splitOn, toList_join]
  refine List.splitOn_intercalate '.' ?_ ?_
  · intro part hpart
    obtain ⟨s, hs, rfl⟩ := List.mem_map.1 hpart
    exact (h s hs).2
  · intro hnil
    exact hne (List.map_eq_nil_iff.1 hnil)

/-- A text is a path if no part of it is empty. -/
theorem segments?_eq (text : String) :
    segments? text =
      if [] ∈ parts text.toList then none else some ((parts text.toList).map String.ofList) := by
  have hany : (parts text.toList).any List.isEmpty = true ↔ [] ∈ parts text.toList := by
    simp
  simp only [segments?, hany]

theorem segments?_join {segments : List String} (hne : segments ≠ [])
    (h : ∀ s ∈ segments, IsSegment s) : segments? (join segments) = some segments := by
  have hempty : [] ∉ segments.map String.toList := by
    intro hmem
    obtain ⟨s, hs, hnil⟩ := List.mem_map.1 hmem
    exact (h s hs).1 (String.toList_eq_nil_iff.1 hnil)
  have hback : (segments.map String.toList).map String.ofList = segments := by
    rw [List.map_map]
    exact List.map_id'' (fun s => String.ofList_toList) segments
  rw [segments?_eq, parts_join hne h, if_neg hempty, hback]

/-- A text that is cut into segments is a path of these, and each of them can be one. -/
theorem join_of_segments? {text : String} {segments : List String}
    (h : segments? text = some segments) :
    join segments = text ∧ segments ≠ [] ∧ ∀ s ∈ segments, IsSegment s := by
  rw [segments?_eq] at h
  by_cases hempty : [] ∈ parts text.toList
  · rw [if_pos hempty] at h
    cases h
  · rw [if_neg hempty, Option.some.injEq] at h
    subst h
    refine ⟨?_, ?_, ?_⟩
    · have hback : ((parts text.toList).map String.ofList).map String.toList =
          parts text.toList := by
        rw [List.map_map]
        exact List.map_id'' (fun part => String.toList_ofList) _
      rw [← String.toList_inj, toList_join, hback, parts_eq_splitOn]
      exact List.intercalate_splitOn '.'
    · intro hnil
      exact parts_ne_nil text.toList (List.map_eq_nil_iff.1 hnil)
    · intro s hs
      obtain ⟨part, hpart, rfl⟩ := List.mem_map.1 hs
      have hdot : '.' ∉ part := not_mem_of_mem_parts hpart
      constructor
      · intro heq
        rw [← String.toList_inj, String.toList_ofList] at heq
        subst heq
        exact hempty hpart
      · rwa [String.toList_ofList]

/-- Segments are exactly what the path that they are joined to is cut into. -/
theorem segments?_eq_some_iff {text : String} {segments : List String} :
    segments? text = some segments ↔
      join segments = text ∧ segments ≠ [] ∧ ∀ s ∈ segments, IsSegment s := by
  constructor
  · exact join_of_segments?
  · intro h
    obtain ⟨hjoin, hne, hsegments⟩ := h
    rw [← hjoin]
    exact segments?_join hne hsegments

/-- The first part is empty if the text is, or if it begins with a point. -/
theorem empty_mem_parts_iff (text : List Char) :
    [] ∈ parts text ↔ text = [] ∨ ['.'] <+: text ∨ [] ∈ (parts text).tail := by
  cases text with
  | nil => simp [parts]
  | cons c rest =>
    obtain ⟨part, others, hparts⟩ := List.exists_cons_of_ne_nil (parts_ne_nil rest)
    by_cases hc : c = '.'
    · simp [parts, hc]
    · have hc' : '.' ≠ c := Ne.symm hc
      simp [parts, hc, hc', hparts]

/-- A later part is empty if the text ends with a point, or has two of them in a row. -/
theorem empty_mem_tail_parts_iff (text : List Char) :
    [] ∈ (parts text).tail ↔ ['.'] <:+ text ∨ ['.', '.'] <:+: text := by
  induction text with
  | nil => simp [parts]
  | cons c rest ih =>
    rw [List.suffix_cons_iff, List.infix_cons_iff]
    by_cases hc : c = '.'
    · have htail : (parts (c :: rest)).tail = parts rest := by
        simp [parts, hc]
      rw [htail, empty_mem_parts_iff, ih]
      simp [hc, eq_comm, or_assoc, or_left_comm]
    · obtain ⟨part, others, hparts⟩ := List.exists_cons_of_ne_nil (parts_ne_nil rest)
      have htail : (parts (c :: rest)).tail = (parts rest).tail := by
        simp [parts, hc, hparts]
      have hc' : '.' ≠ c := Ne.symm hc
      rw [htail, ih]
      simp [hc']

/-- What is no path: the empty text, and a text with a point at the beginning or the end, or
with two points in a row. -/
theorem segments?_eq_none_iff {text : String} :
    segments? text = none ↔ text = "" ∨ ['.'] <+: text.toList ∨ ['.'] <:+ text.toList ∨
      ['.', '.'] <:+: text.toList := by
  have hempty : segments? text = none ↔ [] ∈ parts text.toList := by
    simp [segments?_eq]
  rw [hempty, empty_mem_parts_iff, empty_mem_tail_parts_iff, String.toList_eq_nil_iff]

theorem join_singleton (segment : String) : join [segment] = segment := by
  rw [← String.toList_inj, toList_join, List.map_singleton, List.intercalate_singleton]

theorem isDotted_iff {text : String} : isDotted text = true ↔ '.' ∈ text.toList := by
  rw [isDotted, List.contains_iff_mem]

theorem isDotted_segment {segment : String} (h : IsSegment segment) :
    isDotted segment = false := by
  rw [Bool.eq_false_iff, Ne, isDotted_iff]
  exact h.2

theorem isDotted_join (first second : String) (rest : List String) :
    isDotted (join (first :: second :: rest)) = true := by
  rw [isDotted, toList_join]
  simp [List.intercalate_cons_cons]

theorem isOperatorName_join {first : String} (h : IsSegment first) (rest : List String) :
    isOperatorName (join (first :: rest)) = isOperatorName first := by
  have hne : first.toList ≠ [] := fun hnil => h.1 (String.toList_eq_nil_iff.1 hnil)
  obtain ⟨c, others, hchars⟩ := List.exists_cons_of_ne_nil hne
  cases rest with
  | nil => rw [join_singleton]
  | cons second rest =>
    rw [isOperatorName, isOperatorName, toList_join, List.map_cons, List.map_cons,
      List.intercalate_cons_cons, hchars]
    rfl

end DocQuery.Path
