import DocQuery.Proofs.Path
import DocQuery.Query.Compile
import DocQuery.Query.Selector

/-!
Where paths are cut. Selectors cut every text, and fields of a query only those keys that
have a point. Both refuse a path for the same reason, a segment that is empty, so on keys
with points they refuse the same ones.
-/

namespace DocQuery

namespace Selector

variable {text : String}

/-- A path that can be cut selects along its segments. -/
theorem ofPath_eq_ok_iff {selector : Selector} :
    ofPath text = .ok selector ↔
      ∃ segments, Path.segments? text = some segments ∧ selector = .path segments := by
  rw [ofPath]
  cases Path.segments? text with
  | none => simp
  | some segments => simp [eq_comm]

theorem ofPath_eq_error_iff {e : QueryError} :
    ofPath text = .error e ↔
      Path.segments? text = none ∧ e = .malformedSelector (.invalidPath text) := by
  rw [ofPath]
  cases Path.segments? text with
  | none => simp [eq_comm]
  | some segments => simp

end Selector

namespace Query

section Expansion

variable {key : String} {clause : Value}

theorem expand_eq_ok (hdot : '.' ∈ key.toList) {first : String} {rest : List String}
    (h : Path.segments? key = some (first :: rest)) :
    expand key clause = .ok (first, nested rest clause) := by
  rw [expand, if_pos (Path.isDotted_iff.mpr hdot), h]

/-- A key with a point is refused if it cannot be cut into segments. -/
theorem expand_eq_error_iff (hdot : '.' ∈ key.toList) {e : QueryError} :
    expand key clause = .error e ↔
      Path.segments? key = none ∧ e = .invalidOperand "$trav" (.emptySegment key) := by
  cases hsegments : Path.segments? key with
  | none =>
    rw [expand, if_pos (Path.isDotted_iff.mpr hdot), hsegments]
    simp [eq_comm, Builtin.name]
  | some segments =>
    obtain ⟨-, hne, -⟩ := Path.join_of_segments? hsegments
    obtain ⟨first, rest, rfl⟩ := List.exists_cons_of_ne_nil hne
    simp [expand_eq_ok hdot hsegments]

end Expansion

/-- Cutting a path into segments and joining these are each other's inverses, between the
texts that are paths and the lists of segments that are not empty. No path is the empty text,
or one with a point at the beginning or the end, or with two points in a row; these are all.
A selector is made of exactly the paths. A key with a point is refused as a field of a query
exactly if it is no path, and otherwise it stands for the segments that a selector has. -/
theorem paths_are_lists_of_segments :
    (∀ (text : String) (segments : List String), Path.segments? text = some segments ↔
      Path.join segments = text ∧ segments ≠ [] ∧ ∀ s ∈ segments, s ≠ "" ∧ '.' ∉ s.toList) ∧
    (∀ text : String, Path.segments? text = none ↔
      text = "" ∨ ['.'] <+: text.toList ∨ ['.'] <:+ text.toList ∨ ['.', '.'] <:+: text.toList) ∧
    (∀ (text : String) (selector : Selector), Selector.ofPath text = .ok selector ↔
      ∃ segments, Path.segments? text = some segments ∧ selector = .path segments) ∧
    (∀ (text : String) (e : QueryError), Selector.ofPath text = .error e ↔
      Path.segments? text = none ∧ e = .malformedSelector (.invalidPath text)) ∧
    ∀ (key : String) (clause : Value), '.' ∈ key.toList →
      ((∃ e, expand key clause = .error e) ↔ ∃ e, Selector.ofPath key = .error e) ∧
      (∀ e, expand key clause = .error e → e = .invalidOperand "$trav" (.emptySegment key)) ∧
      ∀ (first : String) (rest : List String),
        Selector.ofPath key = .ok (.path (first :: rest)) →
          expand key clause = .ok (first, nested rest clause) := by
  refine ⟨fun _ _ => Path.segments?_eq_some_iff, fun _ => Path.segments?_eq_none_iff,
    fun _ _ => Selector.ofPath_eq_ok_iff, fun _ _ => Selector.ofPath_eq_error_iff, ?_⟩
  intro key clause hdot
  refine ⟨?_, ?_, ?_⟩
  · simp only [expand_eq_error_iff hdot, Selector.ofPath_eq_error_iff, exists_and_left,
      exists_eq, and_true]
  · intro e h
    exact ((expand_eq_error_iff hdot).mp h).2
  · intro first rest h
    obtain ⟨segments, hsegments, heq⟩ := Selector.ofPath_eq_ok_iff.mp h
    cases heq
    exact expand_eq_ok hdot hsegments

/-- Two points in a row are refused by both; a segment that is the name of an operator is not. -/
theorem doubled_point_is_no_path :
    Path.segments? "a.$or.c" = some ["a", "$or", "c"] ∧ Path.segments? "a..b" = none ∧
      expand "a..b" .null = .error (.invalidOperand "$trav" (.emptySegment "a..b")) ∧
      ∃ e, Selector.ofPath "a..b" = .error e := by
  obtain ⟨hcut, hnone, -, -, hexpand⟩ := paths_are_lists_of_segments
  have hrefused : expand "a..b" .null = .error (.invalidOperand "$trav" (.emptySegment "a..b")) := by
    rfl
  refine ⟨(hcut _ _).mpr ⟨by decide, by decide, by decide⟩, (hnone _).mpr ?_, hrefused, ?_⟩
  · exact Or.inr (Or.inr (Or.inr ⟨['a'], ['b'], rfl⟩))
  · exact (hexpand "a..b" .null (by decide)).1.mp ⟨_, hrefused⟩

end Query
end DocQuery
