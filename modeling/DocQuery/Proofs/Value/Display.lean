import DocQuery.Proofs.Pattern
import DocQuery.Proofs.Value.RoundTrip
import DocQuery.Value.Display

/-!
How a value is shown in a line of text is JSON as well. The characters that have a
letter of their own there are fewer than in JSON text, but what is written for any
character is read as this character. The text of an instant and the flags of a pattern
have no character that has to be escaped.
-/

namespace DocQuery.Value

theorem shownLetter?_read : Json.LettersRead shownLetter? := by
  intro c letter rest h
  unfold shownLetter? at h
  split at h
  all_goals first
    | (cases h; done)
    | (cases h; rfl)

/-! Text that is shown as it is. -/

/-- No character of the text is escaped. -/
def Plain (text : List Char) : Prop := ∀ c ∈ text, Json.escaped shownLetter? c = [c]

instance (text : List Char) : Decidable (Plain text) :=
  List.decidableBAll (fun c => Json.escaped shownLetter? c = [c]) text

theorem Plain.escape {text : List Char} (h : Plain text) : Json.escape shownLetter? text = text := by
  rw [Json.escape, List.flatMap_congr h]
  exact List.flatMap_singleton' text

theorem escape_append (text rest : List Char) :
    Json.escape shownLetter? (text ++ rest) =
      Json.escape shownLetter? text ++ Json.escape shownLetter? rest :=
  List.flatMap_append

theorem plain_append {text rest : List Char} : Plain (text ++ rest) ↔ Plain text ∧ Plain rest :=
  List.forall_mem_append

theorem plain_cons {c : Char} {text : List Char} :
    Plain (c :: text) ↔ Json.escaped shownLetter? c = [c] ∧ Plain text :=
  List.forall_mem_cons

theorem plain_nil : Plain [] := List.forall_mem_nil _

theorem escaped_of_isDigit {c : Char} (h : Numeral.isDigit c = true) :
    Json.escaped shownLetter? c = [c] := by
  have hprintable : 48 ≤ c.toNat := (of_decide_eq_true h).1
  have hne : ∀ d, Numeral.isDigit d = false → c ≠ d := fun d => Numeral.ne_of_isDigit h
  have hletter : shownLetter? c = none := by
    have hfeed := hne '\n' (by decide)
    have hreturn := hne '\r' (by decide)
    have htab := hne '\t' (by decide)
    simp only [shownLetter?]
  have hquote : ¬(c = '"' ∨ c = '\\') := not_or.2 ⟨hne _ (by decide), hne _ (by decide)⟩
  rw [Json.escaped, if_neg hquote, hletter]
  exact if_neg (by omega)

theorem plain_padded (width n : Nat) : Plain (Numeral.padded width (Numeral.decimal n)) := by
  refine plain_append.2 ⟨fun c hc => ?_, fun c hc => ?_⟩
  · rw [List.eq_of_mem_replicate hc]
    decide
  · exact escaped_of_isDigit (Numeral.isDigit_of_mem_decimal hc)

theorem plain_yearText (year : Int) : Plain (Instant.yearText year) := by
  have hdigits := plain_padded 4 year.natAbs
  rw [Instant.yearText]
  split
  · exact hdigits
  · refine plain_cons.2 ⟨?_, hdigits⟩
    split <;> decide

theorem plain_fractionText (nanos : Nat) : Plain (Instant.fractionText nanos) := by
  have hpoint : Json.escaped shownLetter? '.' = ['.'] := by decide
  rw [Instant.fractionText]
  split
  · exact plain_nil
  · split
    · exact plain_cons.2 ⟨hpoint, plain_padded _ _⟩
    · split <;> exact plain_cons.2 ⟨hpoint, plain_padded _ _⟩

theorem plain_instant (t : Instant) : Plain t.text := by
  have hdash : Json.escaped shownLetter? '-' = ['-'] := by decide
  have hcolon : Json.escaped shownLetter? ':' = [':'] := by decide
  have htime : Json.escaped shownLetter? 'T' = ['T'] := by decide
  have hoffset : Plain "+00:00".toList := by decide
  have hpair : ∀ n, Plain (Instant.twoDigits n) := plain_padded 2
  simp only [Instant.text, Instant.localText, plain_append, plain_cons, hdash, hcolon, htime,
    hoffset, hpair, plain_yearText, plain_fractionText, and_self]

theorem plain_flags (p : Pattern) : Plain p.flags.toList := by
  have hplain : Plain Pattern.flagLetters := by decide
  intro c hc
  exact hplain c (p.mem_flagLetters c hc)

theorem quoted_literalText (p : Pattern) : Json.quoted shownLetter? p.literalText.toList =
    '"' :: '/' :: (Json.escape shownLetter? p.source.toList ++ '/' :: (p.flags.toList ++ ['"'])) := by
  have hslash : Json.escape shownLetter? "/".toList = ['/'] := by decide
  have hsplit : p.literalText.toList =
      "/".toList ++ (p.source.toList ++ ("/".toList ++ p.flags.toList)) := by
    simp [Pattern.literalText]
  rw [Json.quoted, hsplit, escape_append, escape_append, escape_append, hslash, (plain_flags p).escape]
  simp

/-! What is shown in place of the value. -/

theorem image_line_image (v : Value) : (v.image .line).image .json = v.image .line := by
  induction v with
  | array items ih =>
    rw [image, image, mapLeaves_array, mapLeaves_array, List.map_map]
    exact congrArg array (List.map_congr_left ih)
  | object fields ih =>
    rw [image, image, mapLeaves_object, mapLeaves_object, List.map_map]
    refine congrArg object (List.map_congr_left fun field hfield => ?_)
    exact congrArg (Prod.mk field.1) (ih field hfield)
  | number n =>
    cases hfinite : n.isFinite with
    | true => simp only [image, mapLeaves, Substitutes.leaf, hfinite, if_true]
    | false => simp only [image, mapLeaves, Substitutes.leaf, hfinite, Bool.false_eq_true, if_false]
  | _ => rfl

theorem WellFormed.image_line {v : Value} (h : v.WellFormed) : (v.image .line).WellFormed := by
  induction v with
  | array items ih =>
    rw [image, mapLeaves_array, wellFormed_array, List.forall_mem_map]
    exact fun v hv => ih v hv (wellFormed_array.1 h v hv)
  | object fields ih =>
    obtain ⟨hdistinct, hfields⟩ := wellFormed_object.1 h
    rw [image, mapLeaves_object, wellFormed_object, Fields.keys_map, List.forall_mem_map]
    exact ⟨hdistinct, fun field hfield => ih field hfield (hfields field hfield)⟩
  | number n =>
    change (if n.isFinite then number n else null).WellFormed
    split <;> trivial
  | _ => trivial

theorem NumbersWhole.image_line {bounds : Int → Prop} {v : Value} (h : v.NumbersWhole bounds) :
    (v.image .line).NumbersWhole bounds := by
  induction v with
  | array items ih =>
    rw [numbersWhole_array] at h
    rw [image, mapLeaves_array, numbersWhole_array, List.forall_mem_map]
    exact fun v hv => ih v hv (h v hv)
  | object fields ih =>
    rw [numbersWhole_object] at h
    rw [image, mapLeaves_object, numbersWhole_object, List.forall_mem_map]
    exact fun field hfield => ih field hfield (h field hfield)
  | number n =>
    change (if n.isFinite then number n else null).NumbersWhole bounds
    split
    · exact h
    · rintro n ⟨⟩
  | _ => rintro n ⟨⟩

theorem containers_image_line {v : Value} {room : Nat} (h : v.containers ≤ room) :
    (v.image .line).containers ≤ room := by
  induction v generalizing room with
  | array items ih =>
    cases room with
    | zero => cases h
    | succ room =>
      rw [containers_array_le] at h
      rw [image, mapLeaves_array, containers_array_le, List.forall_mem_map]
      exact fun v hv => ih v hv (h v hv)
  | object fields ih =>
    cases room with
    | zero => cases h
    | succ room =>
      rw [containers_object_le] at h
      rw [image, mapLeaves_object, containers_object_le, List.forall_mem_map]
      exact fun field hfield => ih field hfield (h field hfield)
  | number n =>
    change (if n.isFinite then number n else null).containers ≤ room
    split <;> exact Nat.zero_le room
  | _ => exact Nat.zero_le room

/-! The text. -/

/-- The document that is shown. -/
def shownJson (v : Value) : Json := (v.image .line).toJson wholeNumber

theorem shownJson_array (items : List Value) :
    (array items).shownJson = .array (items.map shownJson) := by
  rw [shownJson, image, mapLeaves_array, toJson_array, List.map_map]
  rfl

theorem shownJson_object (fields : List (String × Value)) :
    (object fields).shownJson = .object (fields.map fun field => (field.1, field.2.shownJson)) := by
  rw [shownJson, image, mapLeaves_object, toJson_object, List.map_map]
  rfl

theorem shownItems_writesParts : Json.WritesParts shown ']' shownItems where
  ends _ := ⟨[], Json.Reading.isGap_nil, rfl⟩
  next _ _ _ := ⟨[], Json.Reading.isGap_nil, rfl⟩

theorem shownFields_writesParts :
    Json.WritesParts
      (fun field => Json.quoted shownLetter? field.1.toList ++ ':' :: ([] ++ field.2.shown))
      '\x7d' shownFields where
  ends _ := ⟨[], Json.Reading.isGap_nil, rfl⟩
  next _ _ _ := ⟨[], Json.Reading.isGap_nil, by simp [shownFields]⟩

theorem nearInt64_of_natAbs_lt {i : Int} (h : i.natAbs < 9 * 10 ^ 15) : NearInt64 i := by
  unfold NearInt64 int64Least int64Most
  omega

theorem shownNumber_written {n : Number}
    (h : n.isFinite = true → ∃ i, n.integer? = some i ∧ i.natAbs < 9 * 10 ^ 15) :
    Json.Written (number n).shownJson (shownNumber n) := by
  change Json.Written (toJson wholeNumber (if n.isFinite then number n else null)) _
  rw [shownNumber]
  cases hfinite : n.isFinite with
  | true =>
    obtain ⟨i, hi, hsmall⟩ := h hfinite
    have hlimit : i.natAbs < wholeLimit := hsmall
    have hmost : i ≤ int64Most := by
      unfold int64Most
      omega
    change Json.Written (wholeNumber n) _
    rw [wholeNumber_of_integer? hi (nearInt64_of_natAbs_lt hsmall), Int.min_eq_left hmost, hi]
    simp only [if_true, if_pos hlimit]
    exact .integer i
  | false => exact .null

theorem quoted_written (s : String) {text : List Char}
    (h : Json.quoted shownLetter? s.toList = text) : Json.Written (.string s) text := by
  rw [← h]
  exact .string shownLetter?_read s

theorem shown_written {v : Value} (hpresent : ¬Part .undefined v)
    (hnumbers : v.NumbersWhole fun i => i.natAbs < 9 * 10 ^ 15) :
    Json.Written v.shownJson v.shown := by
  induction v with
  | null => exact .null
  | bool b => exact .bool b
  | number n => exact shownNumber_written (numbersWhole_number.1 hnumbers)
  | string s => exact .string shownLetter?_read s
  | array items ih =>
    rw [numbersWhole_array] at hnumbers
    have hitems : ∀ v ∈ items, Json.Written v.shownJson v.shown := fun v hv =>
      ih v hv (fun h => hpresent (.item hv h)) (hnumbers v hv)
    have hlisted : Json.Listed (fun v => Json.Written v.shownJson) ']' true items _ :=
      shownItems_writesParts.listed hitems true
    rw [shownJson_array]
    exact .array (hlisted.map shownJson)
  | object fields ih =>
    rw [numbersWhole_object] at hnumbers
    have hfields : ∀ field ∈ fields, Json.Written field.2.shownJson field.2.shown :=
      fun field hfield =>
        ih field hfield (fun h => hpresent (.field hfield h)) (hnumbers field hfield)
    have hlisted : Json.Listed (fun field => Json.FieldWritten (field.1, field.2.shownJson)) '\x7d'
        true fields _ :=
      shownFields_writesParts.listed (fun field hfield =>
        .mk shownLetter?_read field.1 Json.Reading.isGap_nil (hfields field hfield)) true
    rw [shownJson_object]
    exact .object (hlisted.map fun field : String × Value => (field.1, field.2.shownJson))
  | undefined => exact absurd (.self _) hpresent
  | date t =>
    refine quoted_written _ ?_
    rw [Json.quoted, String.toList_ofList, (plain_instant t).escape]
    rfl
  | regex p =>
    exact quoted_written p.literalText (quoted_literalText p)
  | predicate p =>
    have htext : Json.quoted shownLetter? "<predicate>".toList = "\"<predicate>\"".toList := by decide
    exact quoted_written _ htext

/-- A value without absence, whose finite numbers are whole and below 9·10^15, is shown
as JSON text, and comes back from it as its image for a line of text. Where JSON has
the value, this text is read as its JSON text is. -/
theorem display_reads_back_as_image {v : Value} (hkeys : v.WellFormed)
    (hpresent : ¬Part .undefined v)
    (hnumbers : v.NumbersWhole fun i => i.natAbs < 9 * 10 ^ 15) (hnest : v.containers ≤ 127) :
    (∃ u, ofJsonText v.display = .ok u ∧ u.Agrees (v.image .line)) ∧
      (v.JsonKind → v.image .line = v ∧ ofJsonText v.display = ofJsonText v.jsonText) := by
  have hbounds : v.NumbersWhole NearInt64 := by
    intro n hn hfinite
    obtain ⟨i, hi, hsmall⟩ := hnumbers n hn hfinite
    exact ⟨i, hi, nearInt64_of_natAbs_lt hsmall⟩
  have hroom : ((v.image .line).image .json).containers ≤ Json.nestLimit := by
    rw [image_line_image]
    exact containers_image_line hnest
  have hread := ofJsonText_written hbounds.image_line hkeys.image_line hroom
    (shown_written hpresent hnumbers)
  have hagrees := ofJson_toJson_wholeNumber_agrees hbounds.image_line hkeys.image_line
  rw [image_line_image] at hagrees
  refine ⟨⟨_, hread, hagrees⟩, fun hjson => ?_⟩
  have himage := image_of_jsonKind .line hjson
  rw [himage] at hread hroom
  have hcompact := Json.compact_written (fits_toJson hbounds hroom)
  exact ⟨himage, hread.trans (ofJsonText_written hbounds hkeys hroom hcompact).symm⟩

/-- A key and a source that have to be escaped, an instant, a predicate and NaN. In a
line of text a backspace is shown by its code point; in JSON text it has a letter. -/
theorem escaped_fields_read_back :
    let large : Number := .ofInt (-8999999999999999)
    let quote : Pattern := ⟨"^\"", "g", .concat (.look .start) (.chars (.single '"')), rfl⟩
    let fiveMillis : Instant := ⟨0, 5000000, by decide, by decide⟩
    let v : Value := .object [("\u0001\"", .array [.number large, .number .nan, .regex quote]),
      ("at", .date fiveMillis), ("test", .predicate ⟨0⟩)]
    let w : Value := .object [("\u0001\"", .array [.number large, .null, .string "/^\"/g"]),
      ("at", .string "1970-01-01T00:00:00.005+00:00"), ("test", .string "<predicate>")]
    let backspace : Value := .array [.string "\u0008"]
    (∃ u, ofJsonText v.display = .ok u ∧ u.Agrees w) ∧ backspace.display ≠ backspace.jsonText ∧
      ofJsonText backspace.display = ofJsonText backspace.jsonText := by
  intro large quote fiveMillis v w backspace
  have htext : String.ofList fiveMillis.text = "1970-01-01T00:00:00.005+00:00" := by decide +kernel
  have hlarge : large.isFinite = true ∧ large.integer? = some (-8999999999999999) := by
    decide +kernel
  have hnan : Number.nan.isFinite = false := rfl
  have hliteral : quote.literalText = "/^\"/g" := by decide +kernel
  have himage : v.image .line = w := by
    simp only [v, w, image, mapLeaves, mapLeavesItems, mapLeavesFields, Substitutes.leaf,
      Substitutes.line, htext, hlarge.1, hnan, hliteral, if_true, Bool.false_eq_true, if_false]
  have hkeys : v.WellFormed := by
    simp [v, WellFormed, FieldsWellFormed, AllWellFormed, Fields.keys]
  have hpresent : ¬Part .undefined v := by
    unfold v
    rintro (_ | _ | ⟨hfield, h⟩)
    simp only [List.mem_cons, List.not_mem_nil, or_false] at hfield
    rcases hfield with rfl | rfl | rfl
    · cases h with
      | item hmem h =>
        simp only [List.mem_cons, List.not_mem_nil, or_false] at hmem
        rcases hmem with rfl | rfl | rfl <;> cases h
    · cases h
    · cases h
  have hnumbers : v.NumbersWhole fun i => i.natAbs < 9 * 10 ^ 15 := by
    simp only [v, numbersWhole_object, numbersWhole_array, numbersWhole_number, List.forall_mem_cons]
    refine ⟨⟨fun _ => ⟨_, hlarge.2, by decide⟩, fun h => absurd h Bool.false_ne_true, ?_,
      List.forall_mem_nil _⟩, ?_, ?_, List.forall_mem_nil _⟩
    all_goals rintro n ⟨⟩
  have hnest : v.containers ≤ 127 := by decide
  obtain ⟨hread, -⟩ := display_reads_back_as_image hkeys hpresent hnumbers hnest
  rw [himage] at hread
  have hjson : backspace.JsonKind := by
    unfold backspace
    rintro u (_ | ⟨hmem, h⟩)
    · rfl
    · rw [List.mem_singleton.1 hmem] at h
      cases h
      rfl
  have hnumbers' : backspace.NumbersWhole fun i => i.natAbs < 9 * 10 ^ 15 := by
    rw [numbersWhole_array, List.forall_mem_singleton]
    rintro n ⟨⟩
  have hpresent' : ¬Part .undefined backspace := fun h => absurd (hjson _ h) Bool.false_ne_true
  have hkeys' : backspace.WellFormed := by simp [backspace, WellFormed, AllWellFormed]
  obtain ⟨-, hsame⟩ := display_reads_back_as_image hkeys' hpresent' hnumbers' (by decide)
  exact ⟨hread, by decide +kernel, (hsame hjson).2⟩

end DocQuery.Value
