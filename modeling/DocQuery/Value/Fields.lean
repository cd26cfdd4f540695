/-!
Fields in the order in which their keys were first written. Writing to a key that is there already
changes the value in its place; any other key goes to the end. Keys stay distinct
(`keys_insert_nodup`).
-/
namespace DocQuery.Fields

variable {α : Type}

def keys (fields : List (String × α)) : List String := fields.map Prod.fst

/-- Writes a value to a key. -/
def insert (key : String) (value : α) : List (String × α) → List (String × α)
  | [] => [(key, value)]
  | (k, v) :: rest => if k = key then (key, value) :: rest else (k, v) :: insert key value rest

def ofPairs (pairs : List (String × α)) : List (String × α) :=
  pairs.foldl (fun fields (key, value) => insert key value fields) []

theorem mem_keys_insert {key k : String} {value : α} {fields : List (String × α)} :
    k ∈ keys (insert key value fields) ↔ k = key ∨ k ∈ keys fields := by
  induction fields with
  | nil => simp [insert, keys]
  | cons field rest ih =>
    obtain ⟨l, v⟩ := field
    unfold insert
    split
    · rename_i h
      subst h
      simp [keys]
    · simp only [keys, List.map_cons, List.mem_cons] at ih ⊢
      rw [ih]
      simp only [or_left_comm]

theorem keys_insert_nodup {key : String} {value : α} {fields : List (String × α)}
    (h : (keys fields).Nodup) : (keys (insert key value fields)).Nodup := by
  induction fields with
  | nil => simp [insert, keys]
  | cons field rest ih =>
    obtain ⟨l, v⟩ := field
    simp only [keys, List.map_cons, List.nodup_cons] at h
    unfold insert
    split
    · rename_i heq
      subst heq
      simpa only [keys, List.map_cons, List.nodup_cons] using h
    · rename_i hne
      rw [keys, List.map_cons, List.nodup_cons]
      refine ⟨fun hmem => ?_, ih h.2⟩
      rcases mem_keys_insert.1 hmem with heq | hrest
      · exact hne heq
      · exact h.1 hrest

theorem keys_ofPairs_nodup (pairs : List (String × α)) : (keys (ofPairs pairs)).Nodup := by
  suffices ∀ fields : List (String × α), (keys fields).Nodup →
      (keys (pairs.foldl (fun fields (key, value) => insert key value fields) fields)).Nodup from
    this [] List.nodup_nil
  induction pairs with
  | nil => exact fun _ h => h
  | cons pair rest ih => exact fun fields h => ih _ (keys_insert_nodup h)

end DocQuery.Fields
