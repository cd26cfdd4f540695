import DocQuery.Value.Fields

/-!
Fields with distinct keys. Written one after the other they stay as they are, and each
key finds the value that is written to it.
-/

namespace DocQuery.Fields

variable {α : Type}

theorem keys_map {β : Type} (f : α → β) (fields : List (String × α)) :
    keys (fields.map fun field => (field.1, f field.2)) = keys fields := by
  rw [keys, keys, List.map_map]
  rfl

theorem insert_of_not_mem {key : String} (value : α) {fields : List (String × α)}
    (h : key ∉ keys fields) : insert key value fields = fields ++ [(key, value)] := by
  induction fields with
  | nil => rfl
  | cons field rest ih =>
    obtain ⟨k, v⟩ := field
    rw [keys, List.map_cons, List.mem_cons, not_or] at h
    rw [insert, if_neg (Ne.symm h.1), ih h.2, List.cons_append]

theorem ofPairs_of_nodup {fields : List (String × α)} (h : (keys fields).Nodup) :
    ofPairs fields = fields := by
  suffices hfrom : ∀ before : List (String × α), (keys (before ++ fields)).Nodup →
      fields.foldl (fun fields field => insert field.1 field.2 fields) before =
        before ++ fields from hfrom [] h
  clear h
  intro before h
  induction fields generalizing before with
  | nil => simp
  | cons field rest ih =>
    obtain ⟨key, value⟩ := field
    have hsplit : before ++ (key, value) :: rest = (before ++ [(key, value)]) ++ rest := by simp
    have hnew : key ∉ keys before := by
      intro hmem
      rw [keys, List.map_append, List.nodup_append] at h
      exact h.2.2 key hmem key List.mem_cons_self rfl
    rw [hsplit] at h ⊢
    rw [List.foldl_cons]
    change List.foldl _ (insert key value before) rest = _
    rw [insert_of_not_mem value hnew]
    exact ih _ h

theorem lookup_of_mem {key : String} {value : α} {fields : List (String × α)}
    (hkeys : (keys fields).Nodup) (h : (key, value) ∈ fields) : fields.lookup key = some value := by
  induction fields with
  | nil => cases h
  | cons field rest ih =>
    obtain ⟨k, v⟩ := field
    rw [keys, List.map_cons, List.nodup_cons] at hkeys
    rcases List.mem_cons.1 h with heq | hrest
    · cases heq
      simp
    · have hne : key ≠ k := by
        rintro rfl
        exact hkeys.1 (List.mem_map.2 ⟨(key, value), hrest, rfl⟩)
      rw [List.lookup_cons, beq_false_of_ne hne]
      exact ih hkeys.2 hrest

end DocQuery.Fields
