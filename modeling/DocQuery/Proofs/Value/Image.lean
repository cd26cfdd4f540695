import DocQuery.Proofs.Json.Written
import DocQuery.Proofs.Value.Fields
import DocQuery.Proofs.Value.Rearrangement
import DocQuery.Value.Json

/-!
What JSON can say of a value. In its image, absence and numbers that are not finite
are null, instants are their text, and patterns and predicates are replaced by what a
way of writing puts in their place. The document of a value stands for its image: the
value that is made of it is equal to the image, and its objects have their keys in the
same order.
-/

namespace DocQuery.Value

mutual

/-- Changes all that is not a container, at any depth. -/
def mapLeaves (f : Value → Value) : Value → Value
  | .array items => .array (mapLeavesItems f items)
  | .object fields => .object (mapLeavesFields f fields)
  | v => f v

def mapLeavesItems (f : Value → Value) : List Value → List Value
  | [] => []
  | v :: rest => mapLeaves f v :: mapLeavesItems f rest

def mapLeavesFields (f : Value → Value) : List (String × Value) → List (String × Value)
  | [] => []
  | (key, v) :: rest => (key, mapLeaves f v) :: mapLeavesFields f rest

end

/-- What stands in place of patterns and predicates. -/
structure Substitutes where
  regex : Pattern → Value
  predicate : Predicate → Value

namespace Substitutes

/-- In JSON text a pattern is an object of its source and its flags. -/
def json : Substitutes where
  regex p := .object [("pattern", .string p.source), ("flags", .string p.flags)]
  predicate _ := .null

/-- In a line of text both stand between quotes. -/
def line : Substitutes where
  regex p := .string p.literalText
  predicate _ := .string "<predicate>"

def leaf (s : Substitutes) : Value → Value
  | .undefined => .null
  | .number n => if n.isFinite then .number n else .null
  | .date t => .string (String.ofList t.text)
  | .regex p => s.regex p
  | .predicate p => s.predicate p
  | v => v

end Substitutes

/-- What JSON can say of a value. -/
def image (s : Substitutes) (v : Value) : Value := v.mapLeaves s.leaf

/-- The containers of a value, with the keys of its objects in their order. -/
def outline (v : Value) : Value := v.mapLeaves fun _ => .null

/-- The values are equal, and so is the order of keys in all objects. -/
def Agrees (u v : Value) : Prop := (u == v) = true ∧ u.outline = v.outline

mutual

/-- How many containers lie one within the other. -/
def containers : Value → Nat
  | .array items => containersOfItems items + 1
  | .object fields => containersOfFields fields + 1
  | _ => 0

def containersOfItems : List Value → Nat
  | [] => 0
  | v :: rest => max (containers v) (containersOfItems rest)

def containersOfFields : List (String × Value) → Nat
  | [] => 0
  | (_, v) :: rest => max (containers v) (containersOfFields rest)

end

/-- Every finite number in the value is whole and within bounds. -/
def NumbersWhole (bounds : Int → Prop) (v : Value) : Prop :=
  ∀ n, Part (.number n) v → n.isFinite = true → ∃ i, n.integer? = some i ∧ bounds i

/-- JSON has values of this kind. -/
def ofJsonKind : Value → Bool
  | .undefined | .date _ | .regex _ | .predicate _ => false
  | .number n => n.isFinite
  | _ => true

/-- JSON has values of all kinds that occur in this one. -/
def JsonKind (v : Value) : Prop := ∀ u, Part u v → u.ofJsonKind = true

/-! Lists of elements and of fields. -/

theorem mapLeaves_array (f : Value → Value) (items : List Value) :
    (array items).mapLeaves f = array (items.map (mapLeaves f)) := by
  rw [mapLeaves]
  congr 1
  induction items with
  | nil => rfl
  | cons v rest ih => rw [mapLeavesItems, ih, List.map_cons]

theorem mapLeaves_object (f : Value → Value) (fields : List (String × Value)) :
    (object fields).mapLeaves f = object (fields.map fun field => (field.1, field.2.mapLeaves f)) := by
  rw [mapLeaves]
  congr 1
  induction fields with
  | nil => rfl
  | cons field rest ih => rw [mapLeavesFields, ih, List.map_cons]

theorem toJson_array (number : Number → Json) (items : List Value) :
    (array items).toJson number = .array (items.map (toJson number)) := by
  rw [toJson]
  congr 1
  induction items with
  | nil => rfl
  | cons v rest ih => rw [toJsonItems, ih, List.map_cons]

theorem toJson_object (number : Number → Json) (fields : List (String × Value)) :
    (object fields).toJson number =
      .object (fields.map fun field => (field.1, field.2.toJson number)) := by
  rw [toJson]
  congr 1
  induction fields with
  | nil => rfl
  | cons field rest ih => rw [toJsonFields, ih, List.map_cons]

theorem ofJson_array (items : List Json) : ofJson (.array items) = array (items.map ofJson) := by
  rw [ofJson]
  congr 1
  induction items with
  | nil => rfl
  | cons item rest ih => rw [ofJsonItems, ih, List.map_cons]

theorem ofJson_object (fields : List (String × Json)) :
    ofJson (.object fields) = object (fields.map fun field => (field.1, ofJson field.2)) := by
  rw [ofJson]
  congr 1
  induction fields with
  | nil => rfl
  | cons field rest ih => rw [ofJsonFields, ih, List.map_cons]

theorem containers_array_le {items : List Value} {room : Nat} :
    (array items).containers ≤ room + 1 ↔ ∀ v ∈ items, v.containers ≤ room := by
  have hitems : containersOfItems items ≤ room ↔ ∀ v ∈ items, v.containers ≤ room := by
    induction items with
    | nil => simp [containersOfItems]
    | cons v rest ih => rw [containersOfItems, Nat.max_le, ih, List.forall_mem_cons]
  rw [containers, Nat.add_le_add_iff_right, hitems]

theorem containers_object_le {fields : List (String × Value)} {room : Nat} :
    (object fields).containers ≤ room + 1 ↔ ∀ field ∈ fields, field.2.containers ≤ room := by
  have hfields : containersOfFields fields ≤ room ↔ ∀ field ∈ fields, field.2.containers ≤ room := by
    induction fields with
    | nil => simp [containersOfFields]
    | cons field rest ih => rw [containersOfFields, Nat.max_le, ih, List.forall_mem_cons]
  rw [containers, Nat.add_le_add_iff_right, hfields]

/-! What holds of all parts. -/

section Parts

variable {bounds : Int → Prop}

theorem numbersWhole_number {n : Number} : NumbersWhole bounds (number n) ↔
    (n.isFinite = true → ∃ i, n.integer? = some i ∧ bounds i) := by
  constructor
  · exact fun h => h n (.self _)
  · rintro h _ ⟨⟩
    exact h

theorem numbersWhole_array {items : List Value} :
    NumbersWhole bounds (array items) ↔ ∀ v ∈ items, NumbersWhole bounds v := by
  constructor
  · exact fun h v hv n hn => h n (.item hv hn)
  · rintro h n (_ | ⟨hv, hn⟩)
    exact h _ hv n hn

theorem numbersWhole_object {fields : List (String × Value)} :
    NumbersWhole bounds (object fields) ↔ ∀ field ∈ fields, NumbersWhole bounds field.2 := by
  constructor
  · exact fun h field hfield n hn => h n (.field hfield hn)
  · rintro h n (_ | _ | ⟨hfield, hn⟩)
    exact h _ hfield n hn

end Parts

theorem image_of_jsonKind (s : Substitutes) {v : Value} (h : v.JsonKind) : v.image s = v := by
  induction v with
  | array items ih =>
    rw [image, mapLeaves_array]
    refine congrArg array ((List.map_congr_left fun v hv => ?_).trans (List.map_id items))
    exact ih v hv fun u hu => h u (.item hv hu)
  | object fields ih =>
    rw [image, mapLeaves_object]
    refine congrArg object ((List.map_congr_left fun field hfield => ?_).trans (List.map_id fields))
    exact congrArg (Prod.mk field.1) (ih field hfield fun u hu => h u (.field hfield hu))
  | number n => exact if_pos (h _ (.self _))
  | undefined | date | regex | predicate => exact absurd (h _ (.self _)) Bool.false_ne_true
  | _ => rfl

/-! Agreement. -/

namespace Agrees

theorem number {m n : Number} (h : (m == n) = true) : (Value.number m).Agrees (.number n) := ⟨h, rfl⟩

theorem null : Value.null.Agrees .null := ⟨rfl, rfl⟩

theorem string (s : String) : (Value.string s).Agrees (.string s) := ⟨beq_self_eq_true s, rfl⟩

theorem bool (b : Bool) : (Value.bool b).Agrees (.bool b) := ⟨beq_self_eq_true b, rfl⟩

variable {f g : Value → Value}

theorem array {items : List Value} (h : ∀ v ∈ items, (f v).Agrees (g v)) :
    (Value.array (items.map f)).Agrees (.array (items.map g)) := by
  constructor
  · change equalItems (items.map f) (items.map g) = true
    induction items with
    | nil => rfl
    | cons v rest ih =>
      obtain ⟨hv, hrest⟩ := List.forall_mem_cons.1 h
      rw [List.map_cons, List.map_cons, equalItems, Bool.and_eq_true]
      exact ⟨hv.1, ih hrest⟩
  · rw [outline, outline, mapLeaves_array, mapLeaves_array, List.map_map, List.map_map]
    exact congrArg Value.array (List.map_congr_left fun v hv => (h v hv).2)

theorem object {fields : List (String × Value)} (hkeys : (Fields.keys fields).Nodup)
    (h : ∀ field ∈ fields, (f field.2).Agrees (g field.2)) :
    (Value.object (fields.map fun field => (field.1, f field.2))).Agrees
      (.object (fields.map fun field => (field.1, g field.2))) := by
  constructor
  · change (_ == _ && fieldsWithin _ _) = true
    rw [List.length_map, List.length_map, beq_self_eq_true, Bool.true_and, fieldsWithin_eq_all,
      List.all_map, List.all_eq_true]
    intro field hfield
    have hmem := List.mem_map_of_mem (f := fun field => (field.1, g field.2)) hfield
    have hlookup := Fields.lookup_of_mem ((Fields.keys_map g fields).symm ▸ hkeys) hmem
    simp only [Function.comp, hlookup, Option.any_some]
    exact (h field hfield).1
  · rw [outline, outline, mapLeaves_object, mapLeaves_object, List.map_map, List.map_map]
    refine congrArg Value.object (List.map_congr_left fun field hfield => ?_)
    exact congrArg (Prod.mk field.1) (h field hfield).2

end Agrees

end DocQuery.Value
