import DocQuery.Proofs.Number
import DocQuery.Proofs.Value.Image

/-!
From a value to JSON and back. Compact text, indented text and the document are three
ways to write a value; text is read directly, and a document is converted. Whichever
way is taken, what comes back is the image of the value.
-/

namespace DocQuery.Value

/-! Numbers. -/

/-- The integer lies between -2^63 and 2^63, both included. -/
def NearInt64 (i : Int) : Prop := int64Least ≤ i ∧ i ≤ int64Most + 1

theorem wholeNumber_of_integer? {n : Number} {i : Int} (hi : n.integer? = some i)
    (h : NearInt64 i) : wholeNumber n = .integer (min i int64Most) := by
  unfold NearInt64 at h
  rw [wholeNumber, int64OfNumber?, hi]
  simp only [if_pos h]

theorem wholeNumber_of_not_finite {n : Number} (h : n.isFinite = false) : wholeNumber n = .null := by
  cases n with
  | finite => cases h
  | nan | infinite => rfl

/-- One more than the largest integer of 64 bits is written as the largest, and read as
one more again. -/
theorem ofInt_min_int64Most {n : Number} {i : Int} (hi : n.integer? = some i) (h : NearInt64 i) :
    (Number.ofInt (min i int64Most) == n) = true := by
  by_cases hmost : i ≤ int64Most
  · rw [Int.min_eq_left hmost]
    exact Number.ofInt_of_integer? hi
  · have hi63 : i = 0x8000000000000000 := by
      have hhigh := h.2
      unfold int64Most at hmost hhigh
      omega
    have hmin : min i int64Most = 0x7FFFFFFFFFFFFFFF := by
      rw [hi63]
      rfl
    rw [hmin, Number.ofInt_int64Most, ← hi63]
    exact Number.ofInt_of_integer? hi

theorem ofJson_wholeNumber_agrees {n : Number}
    (h : n.isFinite = true → ∃ i, n.integer? = some i ∧ NearInt64 i)
    (s : Substitutes) : (ofJson (wholeNumber n)).Agrees ((Value.number n).image s) := by
  change (ofJson (wholeNumber n)).Agrees (if n.isFinite then .number n else .null)
  cases hfinite : n.isFinite with
  | true =>
    obtain ⟨i, hi, hnear⟩ := h hfinite
    rw [wholeNumber_of_integer? hi hnear, if_pos rfl]
    exact .number (ofInt_min_int64Most hi hnear)
  | false =>
    rw [wholeNumber_of_not_finite hfinite]
    exact .null

theorem ofJson_pointNumber_agrees (n : Number) (s : Substitutes) :
    (ofJson (pointNumber n)).Agrees ((Value.number n).image s) := by
  cases n with
  | finite negative units h => exact .number (Number.equal_self_iff.2 rfl)
  | nan | infinite => exact .null

/-! Values. -/

/-- The document of a value stands for the image of the value, if the documents of its
numbers stand for theirs. -/
theorem ofJson_toJson_agrees {number : Number → Json} {v : Value} (hkeys : v.WellFormed)
    (hnumbers : ∀ n, Part (.number n) v →
      (ofJson (number n)).Agrees ((Value.number n).image .json)) :
    (ofJson (v.toJson number)).Agrees (v.image .json) := by
  induction v with
  | null | undefined | predicate p => exact .null
  | bool b => exact .bool b
  | number n => exact hnumbers n (.self _)
  | string s => exact .string s
  | array items ih =>
    rw [toJson_array, ofJson_array, List.map_map, image, mapLeaves_array]
    exact .array fun v hv =>
      ih v hv (wellFormed_array.1 hkeys v hv) fun n hn => hnumbers n (.item hv hn)
  | object fields ih =>
    obtain ⟨hdistinct, hfields⟩ := wellFormed_object.1 hkeys
    rw [toJson_object, ofJson_object, List.map_map, image, mapLeaves_object]
    exact Agrees.object (f := fun v => ofJson (v.toJson number)) hdistinct fun field hfield =>
      ih field hfield (hfields field hfield) fun n hn => hnumbers n (.field hfield hn)
  | date t => exact .string _
  | regex p =>
    have hdistinct : ["pattern", "flags"].Nodup := by decide
    have hfields : ∀ field ∈ [("pattern", Value.string p.source), ("flags", .string p.flags)],
        (id field.2).Agrees (id field.2) :=
      List.forall_mem_cons.2 ⟨.string _, List.forall_mem_singleton.2 (.string _)⟩
    apply Agrees.object _ hfields
    exact hdistinct

/-- Reading the text of a value makes what its document stands for; keys that are
distinct are written to once. -/
theorem build_toJson {v : Value} (hkeys : v.WellFormed) :
    (v.toJson wholeNumber).build builder = ofJson (v.toJson wholeNumber) := by
  induction v with
  | number n =>
    change (wholeNumber n).build builder = ofJson (wholeNumber n)
    rw [wholeNumber]
    split
    · rfl
    · split <;> rfl
  | array items ih =>
    rw [toJson_array, ofJson_array, Json.build, Json.buildItems_eq_map, List.map_map, List.map_map]
    exact congrArg array (List.map_congr_left fun v hv => ih v hv (wellFormed_array.1 hkeys v hv))
  | object fields ih =>
    obtain ⟨hdistinct, hfields⟩ := wellFormed_object.1 hkeys
    have hbuilt : ∀ field ∈ fields, (field.1, (field.2.toJson wholeNumber).build builder) =
        (field.1, ofJson (field.2.toJson wholeNumber)) := fun field hfield =>
      congrArg (Prod.mk field.1) (ih field hfield (hfields field hfield))
    rw [toJson_object, ofJson_object, Json.build, Json.buildFields_eq_map, List.map_map, List.map_map]
    rw [← Fields.keys_map (fun v => (v.toJson wholeNumber).build builder)] at hdistinct
    refine congrArg object ((Fields.ofPairs_of_nodup hdistinct).trans ?_)
    exact List.map_congr_left hbuilt
  | _ => rfl

/-- The document of a value can be read in as much room as the image takes, if the documents of its
numbers can be read in any. -/
theorem toJson_nesting {P : Nat → Json → Prop} (hP : Json.Nesting P) {number : Number → Json} {v : Value}
    (hnumbers : ∀ n, Part (.number n) v → ∀ room, P room (number n)) {room : Nat}
    (hroom : (v.image .json).containers ≤ room) : P room (v.toJson number) := by
  induction v generalizing room with
  | null | undefined | predicate p => exact hP.null room
  | bool b => exact hP.bool room b
  | number n => exact hnumbers n (.self _) room
  | string s | date t => exact hP.string room _
  | array items ih =>
    cases room with
    | zero => cases hroom
    | succ room =>
      rw [image, mapLeaves_array, containers_array_le, List.forall_mem_map] at hroom
      rw [toJson_array]
      refine hP.array (List.forall_mem_map.2 fun v hv => ?_)
      exact ih v hv (fun n hn => hnumbers n (.item hv hn)) (hroom v hv)
  | object fields ih =>
    cases room with
    | zero => cases hroom
    | succ room =>
      rw [image, mapLeaves_object, containers_object_le, List.forall_mem_map] at hroom
      rw [toJson_object]
      refine hP.object (List.forall_mem_map.2 fun field hfield => ?_)
      exact ih field hfield (fun n hn => hnumbers n (.field hfield hn)) (hroom field hfield)
  | regex p =>
    cases room with
    | zero => cases hroom
    | succ room =>
      refine hP.object (List.forall_mem_cons.2 ⟨hP.string _ _, ?_⟩)
      exact List.forall_mem_singleton.2 (hP.string _ _)

theorem fits_wholeNumber {n : Number}
    (h : n.isFinite = true → ∃ i, n.integer? = some i ∧ NearInt64 i) (room : Nat) :
    Json.Fits room (wholeNumber n) := by
  cases hfinite : n.isFinite with
  | true =>
    obtain ⟨i, hi, hnear⟩ := h hfinite
    rw [wholeNumber_of_integer? hi hnear]
    have hleast : Json.Reading.integerLeast ≤ min i int64Most := by
      have hlow := hnear.1
      unfold int64Least at hlow
      unfold Json.Reading.integerLeast int64Most
      omega
    have hlimit : min i int64Most < Json.Reading.significandLimit := by
      unfold Json.Reading.significandLimit int64Most
      omega
    exact .integer hleast hlimit
  | false =>
    rw [wholeNumber_of_not_finite hfinite]
    exact .null

section Text

variable {v : Value} (hnumbers : v.NumbersWhole NearInt64)
include hnumbers

theorem fits_toJson {room : Nat} (hroom : (v.image .json).containers ≤ room) :
    Json.Fits room (v.toJson wholeNumber) :=
  toJson_nesting Json.Fits.nesting (fun n hn => fits_wholeNumber (hnumbers n hn)) hroom

theorem ofJsonText_written (hkeys : v.WellFormed)
    (hroom : (v.image .json).containers ≤ Json.nestLimit) {text : List Char}
    (h : Json.Written (v.toJson wholeNumber) text) :
    ofJsonText (String.ofList text) = .ok (ofJson (v.toJson wholeNumber)) := by
  rw [← build_toJson hkeys]
  exact Json.read_written builder (fits_toJson hnumbers hroom).nests h

theorem ofJson_toJson_wholeNumber_agrees (hkeys : v.WellFormed) :
    (ofJson (v.toJson wholeNumber)).Agrees (v.image .json) :=
  ofJson_toJson_agrees hkeys fun n hn => ofJson_wholeNumber_agrees (hnumbers n hn) .json

end Text

/-- A value whose finite numbers are whole and between -2^63 and 2^63 comes back from JSON as its
image: from compact text, from indented text and from its document. A value that JSON
has is its own image. -/
theorem json_reads_back_as_image {v : Value} (hkeys : v.WellFormed)
    (hnumbers : v.NumbersWhole NearInt64)
    (hnest : (v.image .json).containers ≤ 127) :
    (∃ u, ofJsonText v.jsonText = .ok u ∧ ofJsonText v.prettyText = .ok u ∧
        u.Agrees (v.image .json)) ∧
      (ofJson v.document).Agrees (v.image .json) ∧ (v.JsonKind → v.image .json = v) := by
  have hfits := fits_toJson hnumbers hnest
  have hcompact := ofJsonText_written hnumbers hkeys hnest (Json.compact_written hfits)
  have hpretty := ofJsonText_written hnumbers hkeys hnest (Json.pretty_written hfits 0)
  have hagrees := ofJson_toJson_wholeNumber_agrees hnumbers hkeys
  have hdocument : (ofJson v.document).Agrees (v.image .json) :=
    ofJson_toJson_agrees hkeys fun n _ => ofJson_pointNumber_agrees n .json
  exact ⟨⟨_, hcompact, hpretty, hagrees⟩, hdocument, image_of_jsonKind .json⟩

/-- Numbers at the edge, absence, an instant and a pattern with a quote, below a key
that has to be escaped. -/
theorem mixed_fields_read_back :
    let large : Number := .ofInt 0x8000000000000000
    let quote : Pattern := ⟨"^\"", "g", .concat (.look .start) (.chars (.single '"')), rfl⟩
    let fiveMillis : Instant := ⟨0, 5000000, by decide, by decide⟩
    let v : Value := .object [
      ("a\"\n", .array [.number large, .number Number.zero.negate, .number .nan, .undefined]),
      ("", .regex quote), ("at", .date fiveMillis)]
    let w : Value := .object [
      ("a\"\n", .array [.number large, .number Number.zero.negate, .null, .null]),
      ("", .object [("pattern", .string "^\""), ("flags", .string "g")]),
      ("at", .string "1970-01-01T00:00:00.005+00:00")]
    (∃ u, ofJsonText v.jsonText = .ok u ∧ ofJsonText v.prettyText = .ok u ∧ u.Agrees w) ∧
      (ofJson v.document).Agrees w := by
  intro large quote fiveMillis v w
  have htext : String.ofList fiveMillis.text = "1970-01-01T00:00:00.005+00:00" := by decide +kernel
  have hlarge : large.isFinite = true ∧ large.integer? = some 0x8000000000000000 := by decide +kernel
  have hzero : Number.zero.negate.isFinite = true ∧ Number.zero.negate.integer? = some 0 := by
    decide +kernel
  have hnan : Number.nan.isFinite = false := rfl
  have himage : v.image .json = w := by
    simp only [v, w, image, mapLeaves, mapLeavesItems, mapLeavesFields, Substitutes.leaf,
      Substitutes.json, htext, hlarge.1, hzero.1, hnan, quote, if_true, Bool.false_eq_true, if_false]
  have hkeys : v.WellFormed := by
    simp [v, WellFormed, FieldsWellFormed, AllWellFormed, Fields.keys]
  have hnumbers : v.NumbersWhole NearInt64 := by
    simp only [v, numbersWhole_object, numbersWhole_array, numbersWhole_number, List.forall_mem_cons]
    refine ⟨⟨fun _ => ⟨_, hlarge.2, by decide, by decide⟩,
      fun _ => ⟨_, hzero.2, by decide, by decide⟩, fun h => absurd h Bool.false_ne_true, ?_,
      List.forall_mem_nil _⟩, ?_, ?_, List.forall_mem_nil _⟩
    all_goals rintro n ⟨⟩
  have hnest : (v.image .json).containers ≤ 127 := by
    rw [himage]
    decide
  obtain ⟨htexts, hdocument, -⟩ := json_reads_back_as_image hkeys hnumbers hnest
  rw [himage] at htexts hdocument
  exact ⟨htexts, hdocument⟩

end DocQuery.Value
