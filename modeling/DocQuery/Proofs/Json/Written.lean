import DocQuery.Json.Basic
import DocQuery.Proofs.Json.Token

/-!
Reading whole documents. `Written` says which texts are ways to write a document: the
white space in its containers and the choice of escapes are free, and a number with a point
or an exponent is written by any text that is read as this number. Whichever of these
is chosen, the reader takes the whole text, leaves what comes after it, and hands the
parts of the document to its builder (`read_written`). The compact text and the
indented one are two ways to write a document without such numbers.
-/

namespace DocQuery.Json

open Reading

/-- A document that can be read with room for so many containers one within the
other. All of its numbers are whole and fit 64 bits, signed or unsigned. -/
inductive Fits : Nat → Json → Prop
  | null {room : Nat} : Fits room .null
  | bool {room : Nat} (b : Bool) : Fits room (.bool b)
  | integer {room : Nat} {n : Int} (hlow : integerLeast ≤ n) (hhigh : n < significandLimit) :
    Fits room (.integer n)
  | string {room : Nat} (s : String) : Fits room (.string s)
  | array {room : Nat} {items : List Json} (h : ∀ item ∈ items, Fits room item) :
    Fits (room + 1) (.array items)
  | object {room : Nat} {fields : List (String × Json)} (h : ∀ field ∈ fields, Fits room field.2) :
    Fits (room + 1) (.object fields)

/-- A document that can be read with room for so many containers one within the other,
whatever its numbers with a point or an exponent. -/
inductive Nests : Nat → Json → Prop
  | null {room : Nat} : Nests room .null
  | bool {room : Nat} (b : Bool) : Nests room (.bool b)
  | integer {room : Nat} {n : Int} (hlow : integerLeast ≤ n) (hhigh : n < significandLimit) :
    Nests room (.integer n)
  | float {room : Nat} (n : Number) : Nests room (.float n)
  | string {room : Nat} (s : String) : Nests room (.string s)
  | array {room : Nat} {items : List Json} (h : ∀ item ∈ items, Nests room item) :
    Nests (room + 1) (.array items)
  | object {room : Nat} {fields : List (String × Json)} (h : ∀ field ∈ fields, Nests room field.2) :
    Nests (room + 1) (.object fields)

theorem Fits.nests {room : Nat} {item : Json} (h : Fits room item) : Nests room item := by
  induction h with
  | null => exact .null
  | bool b => exact .bool b
  | integer hlow hhigh => exact .integer hlow hhigh
  | string s => exact .string s
  | array _ ih => exact .array ih
  | object _ ih => exact .object ih

/-- Every container takes room from the documents in it, and nothing else does. -/
structure Nesting (P : Nat → Json → Prop) : Prop where
  null : ∀ room, P room .null
  bool : ∀ room b, P room (.bool b)
  string : ∀ room s, P room (.string s)
  array : ∀ {room items}, (∀ item ∈ items, P room item) → P (room + 1) (.array items)
  object : ∀ {room fields}, (∀ field ∈ fields, P room field.2) → P (room + 1) (.object fields)

theorem Fits.nesting : Nesting Fits := ⟨@null, @bool, @string, array, object⟩

theorem Nests.nesting : Nesting Nests := ⟨@null, @bool, @string, array, object⟩

/-- The text begins with a character that is neither white space nor the given end. -/
def Begins (close : Char) (text : List Char) : Prop :=
  ∃ c rest, text = c :: rest ∧ isSpace c = false ∧ c ≠ close

/-- The text is read as this number, with a point or an exponent, by whatever builder. -/
structure ReadsFloat (n : Number) (text : List Char) : Prop where
  begins : Begins ']' text
  read : ∀ ⦃α : Type⦄ (b : Builder α) (inner : Option (Reading α)) ⦃rest : List Char⦄, Stops rest →
    valueWith b inner (text ++ rest) = .ok (b.float n, rest)

/-- The text is a way to write the rest of a container: what it holds, with commas
between and white space in front, and then its end; `first` if nothing has been
written yet. -/
inductive Listed {β : Type} (Each : β → List Char → Prop) (close : Char) :
    Bool → List β → List Char → Prop
  | nil {first : Bool} {gap : List Char} (hgap : IsGap gap) :
    Listed Each close first [] (gap ++ [close])
  | cons {first : Bool} {gap text rest : List Char} {x : β} {xs : List β} (hgap : IsGap gap)
    (hx : Each x text) (hrest : Listed Each close false xs rest) :
    Listed Each close first (x :: xs) ((if first then [] else [',']) ++ (gap ++ (text ++ rest)))

mutual

/-- The text is a way to write the document. -/
inductive Written : Json → List Char → Prop
  | null : Written .null "null".toList
  | bool (b : Bool) : Written (.bool b) (if b then "true" else "false").toList
  | integer (n : Int) : Written (.integer n) (Numeral.integer n)
  | float {n : Number} {text : List Char} (h : ReadsFloat n text) : Written (.float n) text
  | string {letter? : Char → Option Char} (h : LettersRead letter?) (s : String) :
    Written (.string s) (quoted letter? s.toList)
  | array {items : List Json} {text : List Char} (h : Listed Written ']' true items text) :
    Written (.array items) ('[' :: text)
  | object {fields : List (String × Json)} {text : List Char}
    (h : Listed FieldWritten '\x7d' true fields text) : Written (.object fields) ('\x7b' :: text)

inductive FieldWritten : String × Json → List Char → Prop
  | mk {letter? : Char → Option Char} (h : LettersRead letter?) (key : String) {gap text : List Char}
    {item : Json} (hgap : IsGap gap) (hitem : Written item text) :
    FieldWritten (key, item) (quoted letter? key.toList ++ ':' :: (gap ++ text))

end

variable {α : Type}

mutual

/-- What a builder makes of a document. -/
def build (b : Builder α) : Json → α
  | .null => b.null
  | .bool v => b.bool v
  | .integer n => b.integer n
  | .float n => b.float n
  | .string s => b.string s
  | .array items => b.array (buildItems b items)
  | .object fields => b.object (Fields.ofPairs (buildFields b fields))

def buildItems (b : Builder α) : List Json → List α
  | [] => []
  | item :: rest => build b item :: buildItems b rest

def buildFields (b : Builder α) : List (String × Json) → List (String × α)
  | [] => []
  | (key, item) :: rest => (key, build b item) :: buildFields b rest

end

theorem buildItems_eq_map (b : Builder α) (items : List Json) :
    buildItems b items = items.map (build b) := by
  induction items with
  | nil => rfl
  | cons item rest ih => rw [buildItems, ih, List.map_cons]

theorem buildFields_eq_map (b : Builder α) (fields : List (String × Json)) :
    buildFields b fields = fields.map fun field => (field.1, field.2.build b) := by
  induction fields with
  | nil => rfl
  | cons field rest ih => rw [buildFields, ih, List.map_cons]

/-! What a text begins with. -/

theorem isSpace_of_isDigit {c : Char} (h : Numeral.isDigit c = true) : isSpace c = false := by
  rw [Bool.eq_false_iff]
  intro hspace
  simp only [isSpace, Bool.or_eq_true, beq_iff_eq] at hspace
  rcases hspace with ((rfl | rfl) | rfl) | rfl <;> exact absurd h (by decide)

theorem exists_decimal_cons (n : Nat) :
    ∃ c rest, Numeral.decimal n = c :: rest ∧ Numeral.isDigit c = true := by
  obtain ⟨c, rest, hdigits⟩ := List.exists_cons_of_ne_nil (Numeral.decimal_ne_nil n)
  refine ⟨c, rest, hdigits, Numeral.isDigit_of_mem_decimal (n := n) ?_⟩
  rw [hdigits]
  exact List.mem_cons_self

theorem Written.begins {item : Json} {text : List Char} (h : Written item text) :
    Begins ']' text := by
  cases h with
  | null => exact ⟨'n', _, rfl, by decide, by decide⟩
  | bool b => cases b <;> exact ⟨_, _, rfl, by decide, by decide⟩
  | integer n =>
    by_cases hn : n < 0
    · exact ⟨'-', _, if_pos hn, by decide, by decide⟩
    · obtain ⟨c, rest, hdigits, hc⟩ := exists_decimal_cons n.natAbs
      refine ⟨c, rest, (if_neg hn).trans hdigits, isSpace_of_isDigit hc, ?_⟩
      rintro rfl
      exact absurd hc (by decide)
  | float h => exact h.begins
  | string h s => exact ⟨'"', _, rfl, by decide, by decide⟩
  | array h => exact ⟨'[', _, rfl, by decide, by decide⟩
  | object h => exact ⟨'\x7b', _, rfl, by decide, by decide⟩

theorem FieldWritten.begins {field : String × Json} {text : List Char}
    (h : FieldWritten field text) : Begins '\x7d' text := by
  cases h with
  | mk h key hgap hitem => exact ⟨'"', _, rfl, by decide, by decide⟩

theorem stops_gap {gap : List Char} (hgap : IsGap gap) {c : Char}
    (hc : c = ',' ∨ c = ']' ∨ c = '\x7d') (rest : List Char) : Stops (gap ++ c :: rest) := by
  intro d hd
  cases gap with
  | nil =>
    cases hd
    rcases hc with rfl | rfl | rfl <;> decide
  | cons e gap =>
    cases hd
    have hspace := hgap d List.mem_cons_self
    simp only [isSpace, Bool.or_eq_true, beq_iff_eq] at hspace
    rcases hspace with ((rfl | rfl) | rfl) | rfl <;> decide

theorem Listed.stops {β : Type} {Each : β → List Char → Prop} {close : Char}
    (hclose : close = ']' ∨ close = '\x7d') {xs : List β} {text : List Char}
    (h : Listed Each close false xs text) (rest : List Char) : Stops (text ++ rest) := by
  cases h with
  | nil hgap =>
    rw [List.append_assoc]
    exact stops_gap hgap (Or.inr hclose) rest
  | cons => exact stops_gap isGap_nil (Or.inl rfl) _

/-! Containers. -/

theorem advance_cons (c : Char) (rest : List Char) : advance (c :: rest) = .ok ((), rest) := rfl

/-- How the reader goes through a container: it stops at the end, and reads one more
part otherwise, after a comma unless it is the first. -/
structure ReadsParts {γ : Type} (part : Reading γ) (close : Char)
    (loop : Nat → List γ → Reading (List γ)) : Prop where
  ends : ∀ {gap}, IsGap gap → ∀ fuel done rest,
    loop (fuel + 1) done (gap ++ close :: rest) = .ok (done.reverse, rest)
  first : ∀ {gap c}, IsGap gap → isSpace c = false → c ≠ close → ∀ fuel rest,
    loop (fuel + 1) [] (gap ++ c :: rest) = (part >>= fun x => loop fuel [x]) (c :: rest)
  next : ∀ {gap c}, IsGap gap → isSpace c = false → c ≠ close → ∀ fuel y done rest,
    loop (fuel + 1) (y :: done) (',' :: (gap ++ c :: rest)) =
      (part >>= fun x => loop fuel (x :: y :: done)) (c :: rest)

/-- All parts of a container are read, one after the other, and its end. -/
theorem ReadsParts.listed {β γ : Type} {part : Reading γ} {close : Char}
    {loop : Nat → List γ → Reading (List γ)} (hloop : ReadsParts part close loop)
    (hclose : close = ']' ∨ close = '\x7d') {Each : β → List Char → Prop}
    (hbegins : ∀ {x text}, Each x text → Begins close text) (make : β → γ) {xs : List β}
    (hread : ∀ x ∈ xs, ∀ text rest, Each x text → Stops rest →
      part (text ++ rest) = .ok (make x, rest))
    {done : List γ} {text : List Char} (h : Listed Each close done.isEmpty xs text) {fuel : Nat}
    (hfuel : text.length ≤ fuel) (rest : List Char) :
    loop fuel done (text ++ rest) = .ok (done.reverse ++ xs.map make, rest) := by
  induction xs generalizing done text fuel with
  | nil =>
    cases h with
    | nil hgap =>
      cases fuel with
      | zero => simp at hfuel
      | succ fuel =>
        rw [List.append_assoc, List.singleton_append, hloop.ends hgap, List.map_nil,
          List.append_nil]
  | cons x xs ih =>
    obtain ⟨hx, hxs⟩ := List.forall_mem_cons.1 hread
    cases h with
    | @cons _ gap written others _ _ hgap hwritten hrest =>
      have hone := hx _ _ hwritten (hrest.stops hclose rest)
      obtain ⟨c, tail, rfl, hspace, hne⟩ := hbegins hwritten
      have hlength : others.length < fuel := by
        simp only [List.length_append, List.length_cons] at hfuel
        omega
      have hsplit : gap ++ (c :: tail ++ others) ++ rest =
          gap ++ c :: (tail ++ (others ++ rest)) := by simp
      cases fuel with
      | zero => omega
      | succ fuel =>
        have hrest : Listed Each close (make x :: done).isEmpty xs others := hrest
        have hothers := ih hxs hrest (Nat.le_of_lt_succ hlength)
        cases done with
        | nil =>
          rw [List.isEmpty_nil, if_pos rfl, List.nil_append, hsplit, hloop.first hgap hspace hne]
          refine (bind_apply hone).trans (hothers.trans ?_)
          simp
        | cons y done =>
          rw [List.isEmpty_cons, if_neg Bool.false_ne_true, List.singleton_append, List.cons_append,
            hsplit, hloop.next hgap hspace hne]
          refine (bind_apply hone).trans (hothers.trans ?_)
          simp

theorem elements_readsParts (element : Reading α) : ReadsParts element ']' (elements element) where
  ends hgap fuel done rest := by
    have hpeek := peekSpaced_gap hgap (c := ']') (by decide) rest
    rw [elements, bind_apply hpeek]
    change (advance >>= fun _ => pure done.reverse) _ = _
    rw [bind_apply (advance_cons _ _)]
    rfl
  first hgap hspace hne fuel rest := by
    rw [elements, bind_apply (peekSpaced_gap hgap hspace rest)]
    simp only [List.isEmpty_nil, if_true]
  next hgap hspace hne fuel y done rest := by
    rw [elements, bind_apply (peekSpaced_cons (c := ',') (by decide) _)]
    simp only [List.isEmpty_cons, Bool.false_eq_true, if_false]
    change (if ',' = ',' then _ else _ : Reading (List α)) _ = _
    rw [if_pos rfl, bind_apply (advance_cons _ _), bind_apply (peekSpaced_gap hgap hspace rest)]
    simp only

theorem field_gap (element : Reading α) {gap : List Char} (hgap : IsGap gap) {c : Char}
    (hc : isSpace c = false) (rest : List Char) :
    field element (gap ++ c :: rest) = field element (c :: rest) := by
  rw [field, bind_apply (peekSpaced_gap hgap hc rest), bind_apply (peekSpaced_cons hc rest)]

theorem fields_readsParts (element : Reading α) :
    ReadsParts (field element) '\x7d' (fields element) where
  ends hgap fuel done rest := by
    have hpeek := peekSpaced_gap hgap (c := '\x7d') (by decide) rest
    rw [fields, bind_apply hpeek]
    change (advance >>= fun _ => pure done.reverse) _ = _
    rw [bind_apply (advance_cons _ _)]
    rfl
  first hgap hspace hne fuel rest := by
    rw [fields, bind_apply (peekSpaced_gap hgap hspace rest)]
    simp only [List.isEmpty_nil, if_true]
  next hgap hspace hne fuel y done rest := by
    rw [fields, bind_apply (peekSpaced_cons (c := ',') (by decide) _)]
    simp only [List.isEmpty_cons, Bool.false_eq_true, if_false]
    change (if ',' = ',' then _ else _ : Reading (List (String × α))) _ = _
    rw [if_pos rfl, bind_apply (advance_cons _ _)]
    change (field element _ >>= _) = (field element _ >>= _)
    rw [field_gap element hgap hspace]

/-! Documents. -/

/-- The reader takes a document from every text that is a way to write it, after any
white space. -/
def ReadsWritten (b : Builder α) (reader : Reading α) (item : Json) : Prop :=
  ∀ gap text rest, IsGap gap → Written item text → Stops rest →
    reader (gap ++ (text ++ rest)) = .ok (item.build b, rest)

theorem field_written {b : Builder α} {element : Reading α} {member : String × Json}
    (hread : ReadsWritten b element member.2) {text rest : List Char}
    (h : FieldWritten member text) (hrest : Stops rest) :
    field element (text ++ rest) = .ok ((member.1, member.2.build b), rest) := by
  cases h with
  | @mk letter? hletter key gap written item hgap hitem =>
    have hsplit : quoted letter? key.toList ++ ':' :: (gap ++ written) ++ rest =
        '"' :: (Json.escape letter? key.toList ++ '"' :: ':' :: (gap ++ (written ++ rest))) := by
      simp [quoted]
    rw [hsplit, field, bind_apply (peekSpaced_cons (c := '"') (by decide) _)]
    change (advance >>= _ : Reading (String × α)) _ = _
    rw [bind_apply (advance_cons _ _), bind_apply (string_quoted hletter key _),
      bind_apply (peekSpaced_cons (c := ':') (by decide) _)]
    change (advance >>= _ : Reading (String × α)) _ = _
    rw [bind_apply (advance_cons _ _), bind_apply (hread gap written rest hgap hitem hrest)]
    rfl

section Values

variable (b : Builder α) (inner : Option (Reading α))

theorem valueWith_gap {gap : List Char} (hgap : IsGap gap) {c : Char} (hc : isSpace c = false)
    (rest : List Char) : valueWith b inner (gap ++ c :: rest) = valueWith b inner (c :: rest) := by
  unfold valueWith
  rw [bind_apply (peekSpaced_gap hgap hc rest), bind_apply (peekSpaced_cons hc rest)]

theorem valueWith_null (rest : List Char) :
    valueWith b inner ("null".toList ++ rest) = .ok (b.null, rest) := rfl

theorem valueWith_bool (v : Bool) (rest : List Char) :
    valueWith b inner ((if v then "true" else "false").toList ++ rest) = .ok (b.bool v, rest) := by
  cases v <;> rfl

theorem valueWith_digit {c : Char} (hc : Numeral.isDigit c = true) (rest : List Char) :
    valueWith b inner (c :: rest) = number b false (c :: rest) := by
  have hne : ∀ d, Numeral.isDigit d = false → c ≠ d := fun d => Numeral.ne_of_isDigit hc
  have hn := hne 'n' (by decide)
  have ht := hne 't' (by decide)
  have hf := hne 'f' (by decide)
  have hminus := hne '-' (by decide)
  have hquote := hne '"' (by decide)
  have hbracket := hne '[' (by decide)
  have hbrace := hne '\x7b' (by decide)
  unfold valueWith
  rw [bind_apply (peekSpaced_cons (isSpace_of_isDigit hc) rest)]
  simp only [hc, if_true]

theorem valueWith_integer {n : Int} (hlow : integerLeast ≤ n) (hhigh : n < significandLimit)
    {rest : List Char} (hrest : Stops rest) :
    valueWith b inner (Numeral.integer n ++ rest) = .ok (b.integer n, rest) := by
  by_cases hn : n < 0
  · have habs : ((n.natAbs : Nat) : Int) = -n := by omega
    have hfits : n.natAbs < significandLimit := by
      simp only [integerLeast] at hlow
      simp only [significandLimit]
      omega
    have hread := number_decimal b true hfits (fun _ => ⟨by omega, by omega⟩) hrest
    have hvalue : Number.signed true n.natAbs = n := by
      simp only [Number.signed, if_true]
      omega
    rw [hvalue] at hread
    rw [Numeral.integer, if_pos hn]
    exact hread
  · have hread := number_decimal b false (n := n.natAbs) (by omega) (by simp) hrest
    have hvalue : Number.signed false n.natAbs = n := by
      simp only [Number.signed, Bool.false_eq_true, if_false]
      omega
    rw [hvalue] at hread
    obtain ⟨c, tail, hdigits, hc⟩ := exists_decimal_cons n.natAbs
    rw [Numeral.integer, if_neg hn, hdigits, List.cons_append, valueWith_digit b inner hc]
    rwa [hdigits] at hread

theorem valueWith_string {letter? : Char → Option Char} (h : LettersRead letter?) (s : String)
    (rest : List Char) :
    valueWith b inner (quoted letter? s.toList ++ rest) = .ok (b.string s, rest) := by
  have hsplit : quoted letter? s.toList ++ rest =
      '"' :: (Json.escape letter? s.toList ++ '"' :: rest) := by
    simp [quoted]
  unfold valueWith
  rw [hsplit, bind_apply (peekSpaced_cons (c := '"') (by decide) _)]
  change (advance >>= _ : Reading α) _ = _
  rw [bind_apply (advance_cons _ _), bind_apply (string_quoted h s rest)]
  rfl

theorem valueWith_array (element : Reading α) (text : List Char) :
    valueWith b (some element) ('[' :: text) =
      (elements element (text.length + 1) [] >>= fun items => pure (b.array items)) text := rfl

theorem valueWith_object (element : Reading α) (text : List Char) :
    valueWith b (some element) ('\x7b' :: text) =
      (fields element (text.length + 1) [] >>=
        fun members => pure (b.object (Fields.ofPairs members))) text := rfl

end Values

theorem exists_value_eq (b : Builder α) (room : Nat) : ∃ inner, value b room = valueWith b inner := by
  cases room with
  | zero => exact ⟨_, rfl⟩
  | succ room => exact ⟨_, rfl⟩

theorem value_gap (b : Builder α) (room : Nat) {gap : List Char} (hgap : IsGap gap) {c : Char}
    (hc : isSpace c = false) (rest : List Char) :
    value b room (gap ++ c :: rest) = value b room (c :: rest) := by
  obtain ⟨inner, hvalue⟩ := exists_value_eq b room
  rw [hvalue]
  exact valueWith_gap b inner hgap hc rest

theorem readsWritten_of_plain {b : Builder α} {room : Nat} {item : Json}
    (h : ∀ text rest, Written item text → Stops rest →
      value b room (text ++ rest) = .ok (item.build b, rest)) :
    ReadsWritten b (value b room) item := by
  intro gap text rest hgap hwritten hrest
  have hplain := h text rest hwritten hrest
  obtain ⟨c, tail, rfl, hspace, -⟩ := hwritten.begins
  exact (value_gap b room hgap hspace (tail ++ rest)).trans hplain

theorem readsWritten_of_valueWith {b : Builder α} {room : Nat} {item : Json}
    (h : ∀ inner text rest, Written item text → Stops rest →
      valueWith b inner (text ++ rest) = .ok (item.build b, rest)) :
    ReadsWritten b (value b room) item := by
  apply readsWritten_of_plain
  intro text rest hwritten hrest
  obtain ⟨inner, hvalue⟩ := exists_value_eq b room
  rw [hvalue]
  exact h inner text rest hwritten hrest

theorem value_array {b : Builder α} {room : Nat} {items : List Json}
    (hread : ∀ item ∈ items, ReadsWritten b (value b room) item) {text : List Char}
    (h : Listed Written ']' true items text) (rest : List Char) :
    value b (room + 1) ('[' :: text ++ rest) = .ok ((Json.array items).build b, rest) := by
  have hfuel : text.length ≤ (text ++ rest).length + 1 := by
    rw [List.length_append]
    omega
  have hlisted : Listed Written ']' ([] : List α).isEmpty items text := h
  have hitems := (elements_readsParts (value b room)).listed (Or.inl rfl)
    Written.begins (build b)
    (fun item hitem text rest => hread item hitem [] text rest isGap_nil) hlisted hfuel rest
  refine (valueWith_array b (value b room) (text ++ rest)).trans ((bind_apply hitems).trans ?_)
  rw [build, buildItems_eq_map]
  rfl

theorem value_object {b : Builder α} {room : Nat} {members : List (String × Json)}
    (hread : ∀ member ∈ members, ReadsWritten b (value b room) member.2) {text : List Char}
    (h : Listed FieldWritten '\x7d' true members text) (rest : List Char) :
    value b (room + 1) ('\x7b' :: text ++ rest) = .ok ((Json.object members).build b, rest) := by
  have hfuel : text.length ≤ (text ++ rest).length + 1 := by
    rw [List.length_append]
    omega
  have hlisted : Listed FieldWritten '\x7d' ([] : List (String × α)).isEmpty members text := h
  have hmembers := (fields_readsParts (value b room)).listed (Or.inr rfl)
    FieldWritten.begins (fun member => (member.1, member.2.build b))
    (fun member hmember text rest => field_written (hread member hmember)) hlisted hfuel rest
  refine (valueWith_object b (value b room) (text ++ rest)).trans ((bind_apply hmembers).trans ?_)
  rw [build, buildFields_eq_map]
  rfl

/-- By induction on how the containers of the document nest; the room grows with each
of them. -/
theorem value_written (b : Builder α) {room : Nat} {item : Json} (hnests : Nests room item) :
    ReadsWritten b (value b room) item := by
  induction hnests with
  | null =>
    apply readsWritten_of_valueWith
    rintro inner _ rest ⟨⟩ -
    exact valueWith_null b inner rest
  | bool v =>
    apply readsWritten_of_valueWith
    rintro inner _ rest ⟨⟩ -
    exact valueWith_bool b inner v rest
  | integer hlow hhigh =>
    apply readsWritten_of_valueWith
    rintro inner _ rest ⟨⟩ hrest
    exact valueWith_integer b inner hlow hhigh hrest
  | float n =>
    apply readsWritten_of_valueWith
    intro inner text rest hwritten hrest
    cases hwritten with
    | float h => exact h.read b inner hrest
  | string s =>
    apply readsWritten_of_valueWith
    intro inner text rest hwritten _
    cases hwritten with
    | string hletter => exact valueWith_string b inner hletter s rest
  | array _ ih =>
    apply readsWritten_of_plain
    intro text rest hwritten _
    cases hwritten with
    | array hlisted => exact value_array ih hlisted rest
  | object _ ih =>
    apply readsWritten_of_plain
    intro text rest hwritten _
    cases hwritten with
    | object hlisted => exact value_object ih hlisted rest

/-- A document is read from every text that is a way to write it. -/
theorem read_written (b : Builder α) {room : Nat} {item : Json} (hnests : Nests room item)
    {text : List Char} (h : Written item text) :
    read b room (String.ofList text) = .ok (item.build b) := by
  have hread := value_written b hnests [] text [] isGap_nil h stops_nil
  rw [List.nil_append, List.append_nil] at hread
  have hwhole : whole b room text = .ok (item.build b, []) := by
    rw [whole, bind_apply hread]
    rfl
  change Prod.fst <$> whole b room (String.ofList text).toList = _
  rw [String.toList_ofList, hwhole]
  rfl

/-! Writing. -/

/-- How the rest of a container is written: its end, and before it one part after the
other with a comma between them; white space may come before each. -/
structure WritesParts {γ : Type} (part : γ → List Char) (close : Char)
    (write : Bool → List γ → List Char) : Prop where
  ends : ∀ first, ∃ gap, IsGap gap ∧ write first [] = gap ++ [close]
  next : ∀ first x xs, ∃ gap, IsGap gap ∧
    write first (x :: xs) = (if first then [] else [',']) ++ (gap ++ (part x ++ write false xs))

theorem WritesParts.listed {γ : Type} {part : γ → List Char} {close : Char}
    {write : Bool → List γ → List Char} (hwrite : WritesParts part close write)
    {Each : γ → List Char → Prop} {xs : List γ} (h : ∀ x ∈ xs, Each x (part x)) (first : Bool) :
    Listed Each close first xs (write first xs) := by
  induction xs generalizing first with
  | nil =>
    obtain ⟨gap, hgap, htext⟩ := hwrite.ends first
    rw [htext]
    exact .nil hgap
  | cons x rest ih =>
    obtain ⟨hx, hrest⟩ := List.forall_mem_cons.1 h
    obtain ⟨gap, hgap, htext⟩ := hwrite.next first x rest
    rw [htext]
    exact .cons hgap hx (ih hrest false)

theorem Listed.map {β γ : Type} {Each : γ → List Char → Prop} (make : β → γ) {close : Char}
    {first : Bool} {xs : List β} {text : List Char}
    (h : Listed (fun x => Each (make x)) close first xs text) :
    Listed Each close first (xs.map make) text := by
  induction h with
  | nil hgap => exact .nil hgap
  | cons hgap hx _ ih => exact .cons hgap hx ih

theorem compactItems_writesParts : WritesParts compact ']' compactItems where
  ends _ := ⟨[], isGap_nil, rfl⟩
  next _ _ _ := ⟨[], isGap_nil, rfl⟩

theorem compactFields_writesParts :
    WritesParts (fun field => quoted controlLetter? field.1.toList ++ ':' :: ([] ++ field.2.compact))
      '\x7d' compactFields where
  ends _ := ⟨[], isGap_nil, rfl⟩
  next _ _ _ := ⟨[], isGap_nil, by simp [compactFields]⟩

theorem compact_written {room : Nat} {item : Json} (h : Fits room item) :
    Written item item.compact := by
  induction h with
  | null => exact .null
  | bool b => exact .bool b
  | integer => exact .integer _
  | string s => exact .string controlLetter?_read s
  | array _ ih => exact .array (compactItems_writesParts.listed ih true)
  | object _ ih =>
    exact .object (compactFields_writesParts.listed
      (fun field hfield => .mk controlLetter?_read field.1 isGap_nil (ih field hfield)) true)

theorem isGap_newLine (level : Nat) : IsGap (newLine level) := by
  intro c hc
  rcases List.mem_cons.1 hc with rfl | hblank
  · rfl
  · rw [List.eq_of_mem_replicate hblank]
    rfl

theorem isGap_blank : IsGap [' '] := by
  intro c hc
  rw [List.mem_singleton.1 hc]
  rfl

theorem prettyItems_writesParts (level : Nat) :
    WritesParts (pretty level) ']' fun first => prettyItems first level where
  ends _ := ⟨newLine (level - 1), isGap_newLine _, rfl⟩
  next _ _ _ := ⟨newLine level, isGap_newLine _, rfl⟩

theorem prettyFields_writesParts (level : Nat) :
    WritesParts
      (fun field => quoted controlLetter? field.1.toList ++ ':' :: ([' '] ++ field.2.pretty level))
      '\x7d' fun first => prettyFields first level where
  ends _ := ⟨newLine (level - 1), isGap_newLine _, rfl⟩
  next _ _ _ := ⟨newLine level, isGap_newLine _, by simp [prettyFields]⟩

theorem pretty_written {room : Nat} {item : Json} (h : Fits room item) (level : Nat) :
    Written item (item.pretty level) := by
  induction h generalizing level with
  | null => exact .null
  | bool b => exact .bool b
  | integer => exact .integer _
  | string s => exact .string controlLetter?_read s
  | @array _ items _ ih =>
    cases items with
    | nil => exact .array (.nil isGap_nil)
    | cons item rest =>
      exact .array ((prettyItems_writesParts (level + 1)).listed
        (fun item hitem => ih item hitem (level + 1)) true)
  | @object _ fields _ ih =>
    cases fields with
    | nil => exact .object (.nil isGap_nil)
    | cons field rest =>
      exact .object ((prettyFields_writesParts (level + 1)).listed (fun field hfield =>
        .mk controlLetter?_read field.1 isGap_blank (ih field hfield (level + 1))) true)

end DocQuery.Json
