import DocQuery.Proofs.Json.Agreement
import DocQuery.Proofs.Json.Written
import DocQuery.Proofs.Value.Fields
import DocQuery.Proofs.Value.Image

/-!
Reading a value directly and by way of a document. Whatever a builder makes of a text is
what it makes of the document that is in the text, because that document is one that the
reader can give: its integers fit 64 bits, its other numbers are finite, and no object has
a key twice. So no number is lost on the way and no field is written over again, and the
value that is read directly is the one that the document stands for.
-/

namespace DocQuery

namespace Json

/-- A document that the reader can give, with room for so many containers one within the
other. -/
inductive Readable : Nat → Json → Prop
  | null {room : Nat} : Readable room .null
  | bool {room : Nat} (v : Bool) : Readable room (.bool v)
  | integer {room : Nat} {n : Int} (hlow : Reading.integerLeast ≤ n)
    (hhigh : n < Reading.significandLimit) : Readable room (.integer n)
  | float {room : Nat} {n : Number} (h : n.isFinite = true) : Readable room (.float n)
  | string {room : Nat} (s : String) : Readable room (.string s)
  | array {room : Nat} {items : List Json} (h : ∀ item ∈ items, Readable room item) :
    Readable (room + 1) (.array items)
  | object {room : Nat} {fields : List (String × Json)} (hkeys : (Fields.keys fields).Nodup)
    (h : ∀ field ∈ fields, Readable room field.2) : Readable (room + 1) (.object fields)

variable {α : Type}

theorem build_object {b : Builder α} {fields : List (String × Json)}
    (hkeys : (Fields.keys fields).Nodup) :
    build b (.object fields) = b.object (fields.map fun field => (field.1, field.2.build b)) := by
  rw [build, buildFields_eq_map, Fields.ofPairs_of_nodup]
  rwa [Fields.keys_map]

/-- The document is one that can be read, and this is what the builder makes of it. -/
def Builds (b : Builder α) (room : Nat) (document : Json) (result : α) : Prop :=
  document.Readable room ∧ document.build b = result

theorem builds_array {b : Builder α} {room : Nat} {items : List Json} {results : List α}
    (h : List.Forall₂ (Builds b room) items results) :
    Builds b (room + 1) (.array items) (b.array results) := by
  obtain ⟨hreadable, hresults⟩ := (List.forall₂_and_left items results).1 h
  have hmap : items.map (build b) = results := by
    rw [← List.forall₂_eq_eq_eq, List.forall₂_map_left_iff]
    exact hresults
  refine ⟨.array hreadable, ?_⟩
  rw [build, buildItems_eq_map, hmap]

theorem builds_object {b : Builder α} {room : Nat} {fields : List (String × Json)}
    {results : List (String × α)} (hkeys : (Fields.keys fields).Nodup)
    (h : List.Forall₂ (Beside (Builds b room)) fields results) :
    Builds b (room + 1) (.object fields) (b.object results) := by
  have hparts : List.Forall₂ (fun field result =>
      field.2.Readable room ∧ (field.1, field.2.build b) = result) fields results := by
    refine h.imp fun field result hfield => ?_
    obtain ⟨hkey, hreadable, hbuild⟩ := hfield
    exact ⟨hreadable, Prod.ext hkey hbuild⟩
  obtain ⟨hreadable, hresults⟩ := (List.forall₂_and_left fields results).1 hparts
  have hmap : fields.map (fun field => (field.1, field.2.build b)) = results := by
    rw [← List.forall₂_eq_eq_eq, List.forall₂_map_left_iff]
    exact hresults
  refine ⟨.object hkeys hreadable, ?_⟩
  rw [build_object hkeys, hmap]

theorem builder_related_build (b : Builder α) : Json.builder.Related (Builds b) b where
  null := ⟨.null, rfl⟩
  bool v := ⟨.bool v, rfl⟩
  integer hlow hhigh := ⟨.integer hlow hhigh, rfl⟩
  float h := by
    rw [Json.builder]
    simp only [h, if_true]
    exact ⟨.float h, rfl⟩
  string s := ⟨.string s, rfl⟩
  array := builds_array
  object := builds_object

/-- Every builder reads by way of the document that is in the text. -/
theorem read_eq_map_build (b : Builder α) (room : Nat) (text : String) :
    read b room text = (read Json.builder room text).map (build b) ∧
      ∀ document, read Json.builder room text = .ok document → document.Readable room := by
  have habreast := read_abreast (builder_related_build b) room text
  generalize read Json.builder room text = x at habreast ⊢
  generalize read b room text = y at habreast ⊢
  cases habreast with
  | fault e => exact ⟨rfl, fun _ h => nomatch h⟩
  | result h =>
    obtain ⟨hreadable, rfl⟩ := h
    refine ⟨rfl, ?_⟩
    rintro document ⟨⟩
    exact hreadable

end Json

namespace Value

/-- Of a document that can be read, the value is what its parts are built into. -/
theorem build_builder {room : Nat} {document : Json} (h : document.Readable room) :
    document.build builder = ofJson document := by
  induction h with
  | null | bool v | integer hlow hhigh | float h | string s => rfl
  | array h ih =>
    rw [Json.build, Json.buildItems_eq_map, ofJson_array, List.map_congr_left ih]
    rfl
  | object hkeys h ih =>
    rw [Json.build_object hkeys, ofJson_object]
    refine congrArg Value.object (List.map_congr_left fun field hfield => ?_)
    rw [ih field hfield]

/-- A value is read from a text exactly if a document is, or both are refused for the same
fault; the value is the one that the document stands for. -/
theorem reads_by_way_of_document (text : String) :
    ofJsonText text = (documentOfText text).map ofJson ∧
      ∀ document, documentOfText text = .ok document → document.Readable Json.nestLimit := by
  obtain ⟨hread, hreadable⟩ := Json.read_eq_map_build builder Json.nestLimit text
  refine ⟨hread.trans ?_, hreadable⟩
  change (documentOfText text).map _ = _
  cases hdocument : documentOfText text with
  | error e => rfl
  | ok document => exact congrArg Except.ok (build_builder (hreadable document hdocument))

/-- A key that comes twice keeps its place and takes its last value; zero keeps its sign,
and a whole number beyond 64 bits is the nearest number. -/
theorem repeated_key_and_large_number_are_read :
    let text := "\x7b\"a\":[],\"b\":-0,\"a\":18446744073709551617\x7d"
    ∃ v document, ofJsonText text = .ok v ∧ documentOfText text = .ok document ∧
      document.Readable Json.nestLimit ∧ v = ofJson document ∧
      v.fields?.map Fields.keys = some ["a", "b"] ∧
      (v.get? "a").bind number? = some (.ofNat 0x10000000000000000) ∧
      (v.get? "b").bind number? = some Number.zero.negate := by
  intro text
  obtain ⟨hvalue, hreadable⟩ := reads_by_way_of_document text
  have hkeys : (ofJsonText text).toOption.bind (fun v => v.fields?.map Fields.keys) =
      some ["a", "b"] := by decide +kernel
  have hnumbers : (ofJsonText text).toOption.bind (fun v => (v.get? "a").bind number?) =
        some (.ofNat 0x10000000000000000) ∧
      (ofJsonText text).toOption.bind (fun v => (v.get? "b").bind number?) =
        some Number.zero.negate := by decide +kernel
  cases hdocument : documentOfText text with
  | error e =>
    rw [hvalue, hdocument] at hkeys
    cases hkeys
  | ok document =>
    rw [hdocument] at hvalue
    rw [hvalue] at hkeys hnumbers
    exact ⟨_, document, hvalue, rfl, hreadable document hdocument, rfl, hkeys, hnumbers⟩

end Value
end DocQuery
