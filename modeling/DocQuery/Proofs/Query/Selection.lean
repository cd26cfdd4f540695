import DocQuery.Proofs.Query.FieldPath
import DocQuery.Proofs.Query.Logic
import DocQuery.Proofs.Query.Splitting

/-!
Selecting by a path and asking along it. A selector follows its path through objects
and gives absence wherever the path breaks off; a query on a path makes one step for
each field, and every step may give absence. As long as no array is met on the way
both come to the same value, so a sieve for a query that looks at what the path
selects keeps the same items as a sieve for the query on the path.
-/

namespace DocQuery

namespace Value

/-- No array is met on the way along a path: neither the value itself nor what some
first part of the path leads to is one. What the whole path leads to may be. -/
def NoArrayAlong (path : List String) (v : Value) : Prop :=
  ∀ n < path.length, ∀ items, v.follow? (path.take n) ≠ some (.array items)

theorem NoArrayAlong.ne_array {field : String} {rest : List String} {v : Value}
    (h : v.NoArrayAlong (field :: rest)) (items : List Value) : v ≠ .array items := by
  rintro rfl
  exact h 0 (Nat.succ_pos _) items rfl

theorem NoArrayAlong.of_get? {field : String} {rest : List String} {v w : Value}
    (h : v.NoArrayAlong (field :: rest)) (hw : v.get? field = some w) :
    w.NoArrayAlong rest := by
  intro n hn items hitems
  refine h (n + 1) (Nat.succ_lt_succ hn) items ?_
  rw [List.take_succ_cons, follow?, hw]
  exact hitems

end Value

theorem readField_of_ne_array {v : Value} (field : String) (h : ∀ items, v ≠ .array items) :
    readField field v = [(v.get? field).getD .undefined] := by
  cases v with
  | array items => exact absurd rfl (h items)
  | _ => rfl

theorem reach_undefined (path : List String) : reach path .undefined = [.undefined] := by
  induction path with
  | nil => rfl
  | cons field rest ih =>
    have hne : ∀ items, Value.undefined ≠ .array items := by
      intro items heq
      cases heq
    rw [reach_cons, readField_of_ne_array field hne, List.flatMap_singleton]
    exact ih

/-- Away from arrays a path reaches the one value that it leads to, or absence. -/
theorem reach_of_noArrayAlong {path : List String} {v : Value} (h : v.NoArrayAlong path) :
    reach path v = [(v.follow? path).getD .undefined] := by
  induction path generalizing v with
  | nil => rfl
  | cons field rest ih =>
    rw [reach_cons, readField_of_ne_array field h.ne_array, List.flatMap_singleton, Value.follow?]
    cases hw : v.get? field with
    | none => exact reach_undefined rest
    | some w => exact ih (h.of_get? hw)

namespace Query

theorem segments?_of_ofPath {path : String} {segments : List String}
    (h : Selector.ofPath path = .ok (.path segments)) : Path.segments? path = some segments := by
  obtain ⟨found, hfound, heq⟩ := Selector.ofPath_eq_ok_iff.mp h
  cases heq
  exact hfound

/-- The statement for a query on a path answers as the one for the query does about a
value that the path reaches, whatever the options that they are compiled with. -/
theorem test_path_eq_any_reach (answers : Answers) {registry : Registry}
    {options options' : CompileOptions} {path : List String} {query : Value} {s t : Statement}
    (hne : path ≠ []) (hpath : ∀ f ∈ path, IsField f)
    (hs : compile registry options query = .ok s)
    (ht : compile registry options' (.singleton (Path.join path) query) = .ok t) (datum : Value) :
    t.test answers datum = (reach path datum).any fun v => s.test answers v := by
  obtain ⟨u, hu, htest⟩ := path_matches_iff_reached answers registry options.depthLimit
    options.reorder options'.reorder path query s hne hpath hs
  have hsame := (Means.of_compile answers ht).unique (Means.of_compile answers hu) datum
  rw [hsame, Bool.eq_iff_iff, htest, List.any_eq_true]

/-- A sieve for a query that looks at what a path selects keeps an item exactly if a
sieve for the query on that path does, where no array is met along the path; of a list
of such items both keep the same ones, in their order. -/
theorem path_selection_is_path_query (answers : Answers) (registry : Registry)
    (options options' : CompileOptions) (path : String) (segments : List String) (query : Value)
    (s t : Statement) (hpath : Selector.ofPath path = .ok (.path segments))
    (hfields : ∀ f ∈ segments, isOperatorName f = false)
    (hs : compile registry options query = .ok s)
    (ht : compile registry options' (.singleton path query) = .ok t) :
    (∀ item : Value, item.NoArrayAlong segments →
      (Sieve.mk s (.path segments)).keeps answers item =
        (Sieve.mk t .identity).keeps answers item) ∧
      ∀ items : List Value, (∀ item ∈ items, item.NoArrayAlong segments) →
        ((Sieve.mk s (.path segments)).filter answers items).value =
          ((Sieve.mk t .identity).filter answers items).value := by
  obtain ⟨hjoin, hne, hsegments⟩ := Path.join_of_segments? (segments?_of_ofPath hpath)
  have hall : ∀ f ∈ segments, IsField f := fun f hf => ⟨hsegments f hf, hfields f hf⟩
  rw [← hjoin] at ht
  have hkeeps : ∀ item : Value, item.NoArrayAlong segments →
      (Sieve.mk s (.path segments)).keeps answers item =
        (Sieve.mk t .identity).keeps answers item := by
    intro item hitem
    have htest := test_path_eq_any_reach answers hne hall hs ht item
    rw [reach_of_noArrayAlong hitem, List.any_cons, List.any_nil, Bool.or_false] at htest
    exact htest.symm
  refine ⟨hkeeps, ?_⟩
  intro items hitems
  rw [Sieve.value_filter, Sieve.value_filter]
  apply List.filter_congr
  intro item hitem
  exact hkeeps item (hitems item hitem)

/-- The path breaks off at a truth value, at null and at a missing field, and then
selects absence; where it goes through it may end at an array. -/
theorem broken_paths_select_absence :
    let answers : Answers := fun _ _ => false
    let query : Value := .singleton "$exists" (.bool false)
    let ending : Value := .singleton "a" (.singleton "b" (.array [.null]))
    let items : List Value := [.singleton "a" (.bool true), ending, .singleton "a" .null, .object []]
    ∃ s t, Sieve.ofQuery .standard query (.path ["a", "b"]) = .ok ⟨s, .path ["a", "b"]⟩ ∧
      Sieve.ofQuery .standard (.singleton "a.b" query) .identity = .ok ⟨t, .identity⟩ ∧
      (Sieve.mk s (.path ["a", "b"])).keeps answers ending = false ∧
      ((Sieve.mk s (.path ["a", "b"])).filter answers items).value =
        ((Sieve.mk t .identity).filter answers items).value := by
  intro answers query ending items
  have hwritten : ∃ s, compile .standard ⟨false, 128⟩ query = .ok s ∧
      s.test answers (.array [.null]) = false := ⟨_, rfl, rfl⟩
  have hwritten' : ∃ t, compile .standard ⟨false, 128⟩
      (.singleton "a.b" (.singleton "$exists" (.bool false))) = .ok t := ⟨_, rfl⟩
  obtain ⟨written, hwritten, hending⟩ := hwritten
  obtain ⟨written', hwritten'⟩ := hwritten'
  obtain ⟨s, hs, htest⟩ := (Means.of_compile answers hwritten).compile true
  obtain ⟨t, ht, -⟩ := (Means.of_compile answers hwritten').compile true
  have hpath : Selector.ofPath "a.b" = .ok (.path ["a", "b"]) := rfl
  have hitems : ∀ item ∈ items, item.NoArrayAlong ["a", "b"] := by
    intro item hitem n hn found
    have hn : n = 0 ∨ n = 1 := by
      simp only [List.length_cons, List.length_nil] at hn
      omega
    simp only [items, ending, List.mem_cons, List.not_mem_nil, or_false] at hitem
    rcases hn with rfl | rfl <;> rcases hitem with rfl | rfl | rfl | rfl <;>
      simp [Value.follow?, Value.get?, Value.singleton]
  obtain ⟨-, hsame⟩ := path_selection_is_path_query answers .standard {} {} "a.b" ["a", "b"]
    query s t hpath (by decide) hs ht
  refine ⟨s, t, ?_, ?_, ?_, hsame items hitems⟩
  · rw [Sieve.ofQuery, hs]
    rfl
  · rw [Sieve.ofQuery, ht]
    rfl
  · exact (htest (.array [.null])).trans hending

end Query
end DocQuery
