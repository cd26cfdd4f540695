import DocQuery.Proofs.Json.Decimal
import DocQuery.Proofs.Json.Scaling
import DocQuery.Proofs.Value.Integer
import DocQuery.Proofs.Value.RoundTrip

/-!
Numbers in JSON text and back. A number that is written as an integer comes back as itself. Any
other is written as its shortest decimal, which has places or so many digits that it is written
with an exponent, and the digits and the exponent of this decimal are scaled when it is read. What
comes back is near the number, and is the number if it is scaled without loss. The same goes for
the numbers within a value.
-/

namespace DocQuery

/-! Which numbers are not written as integers. -/

theorem unitsPerOne_dvd_nearest (n : Nat) : unitsPerOne ∣ nearest (n * unitsPerOne) 1 := by
  by_cases hsmall : n ≤ Nat.pow 2 53
  · rw [nearest_of_representable (Number.representable_mul_unitsPerOne hsmall)]
    exact Nat.dvd_mul_left _ _
  · have hle : Nat.pow 2 (53 + binaryPlaces) * 1 ≤ n * unitsPerOne := by
      unfold unitsPerOne
      generalize binaryPlaces = places
      simp only [Nat.pow_eq] at hsmall ⊢
      rw [Nat.mul_one, Nat.pow_add]
      exact Nat.mul_le_mul_right _ (by omega)
    have hlarge := two_pow_le_nearest Nat.one_pos hle
    refine Nat.dvd_trans ?_ (spacing_dvd_nearest (n * unitsPerOne) Nat.one_pos)
    generalize nearest (n * unitsPerOne) 1 = units at hlarge
    unfold unitsPerOne spacing
    generalize binaryPlaces = places at hlarge
    simp only [Nat.pow_eq] at hlarge ⊢
    have hne : units ≠ 0 := fun hzero => by
      rw [hzero] at hlarge
      exact absurd hlarge (Nat.not_le.mpr (Nat.two_pow_pos _))
    have hlog := (Nat.le_log2 hne).mpr hlarge
    exact Nat.pow_dvd_pow 2 (by omega)

theorem nearest_le_two_pow_63 {n : Nat} (h : n ≤ 2 ^ 63) :
    nearest (n * unitsPerOne) 1 ≤ 2 ^ 63 * unitsPerOne := by
  have hbits : 63 + binaryPlaces < magnitudeBits := by decide
  have hunit : 2 ^ 63 * unitsPerOne = Nat.pow 2 (63 + binaryPlaces) := by
    unfold unitsPerOne
    generalize binaryPlaces = places
    rw [Nat.pow_eq, Nat.pow_eq, Nat.pow_add]
  apply nearest_le_of_representable Nat.one_pos
  · rw [hunit]
    exact representable_two_pow hbits
  · rw [Nat.mul_one]
    exact Nat.mul_le_mul_right _ h

namespace Decimal

/-- A decimal without places is a whole number, and up to sixteen digits stay below 2^63. -/
theorem exists_whole {d : Decimal} (hnonneg : 0 ≤ d.exponent)
    (hlength : (Numeral.decimal d.digits).length + d.exponent ≤ 16) :
    ∃ n ≤ 2 ^ 63, d.numerator = n * unitsPerOne ∧ d.denominator = 1 := by
  obtain ⟨digits, exponent⟩ := d
  obtain ⟨zeros, rfl⟩ := Int.eq_ofNat_of_zero_le hnonneg
  simp only at hlength
  refine ⟨digits * 10 ^ zeros, ?_, rfl, ?_⟩
  · calc digits * 10 ^ zeros
      _ ≤ 10 ^ (Numeral.decimal digits).length * 10 ^ zeros :=
        Nat.mul_le_mul_right _ (Nat.le_of_lt (Numeral.lt_pow_length_decimal digits))
      _ = 10 ^ ((Numeral.decimal digits).length + zeros) := (Nat.pow_add ..).symm
      _ ≤ 10 ^ 16 := Nat.pow_le_pow_right (by decide) (by omega)
      _ ≤ 2 ^ 63 := by decide
  · have hzero : (-(zeros : Int)).toNat = 0 := by omega
    rw [denominator, hzero]

end Decimal

namespace Value

variable {negative : Bool} {units : Nat} {h : Representable units}

/-- Whole numbers up to 2^63 are given as integers. -/
theorem int64OfNumber?_ne_none (hwhole : unitsPerOne ∣ units) (hle : units ≤ 2 ^ 63 * unitsPerOne) :
    int64OfNumber? (.finite negative units h) ≠ none := by
  have hquotient : units / unitsPerOne ≤ 2 ^ 63 := Nat.div_le_of_le_mul (by rwa [Nat.mul_comm])
  have habs := Number.natAbs_signed negative (units / unitsPerOne)
  rw [int64OfNumber?, Number.integer?, if_pos (Nat.mod_eq_zero_of_dvd hwhole)]
  simp only
  rw [if_pos]
  · exact Option.some_ne_none _
  · unfold int64Least int64Most
    omega

/-- The shortest decimal of any other number has places, or more than sixteen digits with the
zeros after them. -/
theorem shortest_has_places (hnone : int64OfNumber? (.finite negative units h) = none) :
    0 < units ∧ ((Decimal.shortest false units).exponent < 0 ∨
      16 < (Numeral.decimal (Decimal.shortest false units).digits).length +
        (Decimal.shortest false units).exponent) := by
  have hpos : 0 < units := by
    refine Nat.pos_of_ne_zero fun hzero => ?_
    exact int64OfNumber?_ne_none (hzero ▸ Nat.dvd_zero _) (hzero ▸ Nat.zero_le _) hnone
  obtain ⟨hrounds, -⟩ := Decimal.shortest_spec false h hpos
  have hnearest := Decimal.nearest_of_roundsTo h hpos hrounds
  refine ⟨hpos, ?_⟩
  by_cases hnonneg : 0 ≤ (Decimal.shortest false units).exponent
  · refine Or.inr (Int.not_le.mp fun hlength => ?_)
    obtain ⟨n, hn, hnumerator, hdenominator⟩ := Decimal.exists_whole hnonneg hlength
    rw [hnumerator, hdenominator] at hnearest
    have hwhole := unitsPerOne_dvd_nearest n
    have hle := nearest_le_two_pow_63 hn
    rw [hnearest] at hwhole hle
    exact int64OfNumber?_ne_none hwhole hle hnone
  · exact Or.inl (Int.not_le.mp hnonneg)

end Value

/-! What is read from the shortest decimal. -/

namespace Json.Reading

theorem exists_digit_of_number {α : Type} {b : Builder α} {negative : Bool} {text rest : List Char}
    {result : α} (h : number b negative text = .ok (result, rest)) :
    ∃ c tail, text = c :: tail ∧ Numeral.isDigit c = true := by
  cases text with
  | nil => cases h
  | cons c tail =>
    refine ⟨c, tail, rfl, ?_⟩
    cases hdigit : Numeral.isDigit c with
    | true => rfl
    | false =>
      have hnone : (c :: tail).takeWhile Numeral.isDigit = [] :=
        List.takeWhile_cons_of_neg (by simp [hdigit])
      rw [number, bind_apply (get_apply _)] at h
      simp only [hnone] at h
      cases h

theorem readsFloat_of_readsScaled {text : List Char} {significand : Nat} {exponent : Int} {n : Number}
    (h : ReadsScaled text significand exponent) (hscale : scale significand exponent = some n)
    (negative : Bool) :
    ReadsFloat (withSign negative n) (if negative then '-' :: text else text) := by
  obtain ⟨c, tail, rfl, hdigit⟩ : ∃ c tail, text = c :: tail ∧ Numeral.isDigit c = true := by
    have hread := h builder false stops_nil hscale
    rw [List.append_nil] at hread
    exact exists_digit_of_number hread
  cases negative with
  | true =>
    refine ⟨⟨'-', _, rfl, by decide, by decide⟩, fun α b inner rest hrest => ?_⟩
    exact h b true hrest hscale
  | false =>
    have hbracket : c ≠ ']' := Numeral.ne_of_isDigit hdigit (by decide)
    refine ⟨⟨c, tail, rfl, isSpace_of_isDigit hdigit, hbracket⟩, fun α b inner rest hrest => ?_⟩
    exact (valueWith_digit b inner hdigit _).trans (h b false hrest hscale)

end Json.Reading

namespace Number

/-- A finite number of the same sign, whose distance is less than four times that between the
numbers there. The sign of a zero does not count. -/
structure Near (m n : Number) : Prop where
  finite : m.isFinite = true
  sign : m.isNegative = n.isNegative ∨ n.isZero = true
  close : ∃ p q, m.position = some p ∧ n.position = some q ∧
    (p - q).natAbs < 4 * spacing q.natAbs

theorem near_of_equal {m n : Number} (h : (m == n) = true) (hfinite : n.isFinite = true) :
    m.Near n := by
  have hfinite' := isFinite_of_equal h hfinite
  obtain ⟨p, hm, hn⟩ := equal_iff.mp h
  refine ⟨hfinite', ?_, p, p, hm, hn, ?_⟩
  · obtain ⟨a, _, _, rfl⟩ := exists_finite hfinite'
    obtain ⟨b, units, _, rfl⟩ := exists_finite hfinite
    refine (signed_eq_signed (Option.some.inj (hm.trans hn.symm))).imp id fun hzero => ?_
    rw [isZero, position, hzero]
    cases b <;> rfl
  · have hspacing := spacing_pos p.natAbs
    omega

/-- What is read from the shortest decimal of a finite number: its digits and its exponent,
scaled. -/
def rescaled : Number → Number
  | .finite negative units _ =>
    let d := Decimal.shortest false units
    Json.Reading.withSign negative ((Json.scale d.digits d.exponent).getD (.infinite false))
  | n => n

/-- The shortest decimal of the number is scaled without loss. -/
def ScalesExactly : Number → Prop
  | .finite _ units _ => Json.ScalesExactly (Decimal.shortest false units)
  | _ => False

instance : DecidablePred ScalesExactly
  | .finite _ units _ => inferInstanceAs (Decidable (Json.ScalesExactly (Decimal.shortest false units)))
  | .nan | .infinite _ => .isFalse id

section Rescaled

variable (negative : Bool) {units : Nat} (h : Representable units) (hpos : 0 < units)
include hpos

theorem exists_scale_shortest : ∃ m hm,
    Json.scale (Decimal.shortest false units).digits (Decimal.shortest false units).exponent =
      some (.finite false m hm) ∧
    rescaled (.finite negative units h) = Json.Reading.withSign negative (.finite false m hm) ∧
    ((m : Int) - units).natAbs < 4 * spacing units := by
  obtain ⟨m, hm, hscale, hclose⟩ := Json.scale_shortest h hpos
  refine ⟨m, hm, hscale, ?_, ?_⟩
  · rw [rescaled]
    simp only [hscale, Option.getD_some]
  · have hclose' : |(m : Int) - units| < 4 * spacing units := by exact_mod_cast hclose
    rw [Int.abs_eq_natAbs] at hclose'
    exact_mod_cast hclose'

theorem rescaled_near : (rescaled (.finite negative units h)).Near (.finite negative units h) := by
  obtain ⟨m, hm, -, hrescaled, hclose⟩ := exists_scale_shortest negative h hpos
  have hsigned : rescaled (.finite negative units h) = .finite negative m hm :=
    hrescaled.trans (by cases negative <;> rfl)
  rw [hsigned]
  refine ⟨rfl, Or.inl rfl, _, _, rfl, rfl, ?_⟩
  rwa [natAbs_signed, natAbs_signed_sub]

theorem rescaled_eq_self (hexact : ScalesExactly (.finite negative units h)) :
    rescaled (.finite negative units h) = .finite negative units h := by
  have hscale := Json.scale_exact hexact h hpos (Decimal.shortest_spec false h hpos).1
  rw [rescaled]
  simp only [hscale, Option.getD_some]
  cases negative <;> rfl

end Rescaled

/-- What becomes of a finite number that is written in JSON text and read. -/
def reread (n : Number) : Number :=
  match Value.int64OfNumber? n with
  | some i => .ofInt i
  | none => n.rescaled

theorem ofInt_of_int64OfNumber? {n : Number} {i : Int} (h : Value.int64OfNumber? n = some i) :
    (ofInt i == n) = true := by
  rcases Value.int64OfNumber?_eq_some_iff.mp h with ⟨hi, -⟩ | ⟨hlimit, rfl⟩
  · exact ofInt_of_integer? (integer?_eq_some_iff.mpr hi)
  · have hnext : ofInt (2 ^ 63 - 1) = ofInt (2 ^ 63) := ofInt_int64Most
    rw [hnext]
    exact ofInt_of_integer? (integer?_eq_some_iff.mpr hlimit)

theorem reread_near {n : Number} (hfinite : n.isFinite = true) : n.reread.Near n := by
  rw [reread]
  cases hnone : Value.int64OfNumber? n with
  | some i => exact near_of_equal (ofInt_of_int64OfNumber? hnone) hfinite
  | none =>
    obtain ⟨negative, units, h, rfl⟩ := exists_finite hfinite
    exact rescaled_near negative h (Value.shortest_has_places hnone).1

theorem reread_equal {n : Number} (hfinite : n.isFinite = true)
    (h : (Value.int64OfNumber? n).isSome = true ∨ n.ScalesExactly) : (n.reread == n) = true := by
  rw [reread]
  cases hnone : Value.int64OfNumber? n with
  | some i => exact ofInt_of_int64OfNumber? hnone
  | none =>
    obtain ⟨negative, units, hrep, rfl⟩ := exists_finite hfinite
    rw [hnone] at h
    have hexact := h.resolve_left Bool.false_ne_true
    have hpos := (Value.shortest_has_places hnone).1
    simp only [rescaled_eq_self negative hrep hpos hexact]
    exact equal_self_iff.2 rfl

end Number

namespace Value

/-! Values. -/

def mapNumbers (f : Number → Number) (v : Value) : Value :=
  v.mapLeaves fun
    | .number n => .number (f n)
    | leaf => leaf

/-- The document that is read for a number. -/
def rereadNumber (n : Number) : Json :=
  match int64OfNumber? n with
  | some i => .integer i
  | none => if n.isFinite then .float n.rescaled else .null

theorem readsFloat_rescaled {n : Number} (hfinite : n.isFinite = true)
    (hnone : int64OfNumber? n = none) : Json.ReadsFloat n.rescaled (Json.floatText n) := by
  obtain ⟨negative, units, h, rfl⟩ := Number.exists_finite hfinite
  obtain ⟨hpos, hplaces⟩ := shortest_has_places hnone
  obtain ⟨hrounds, hdigits⟩ := Decimal.shortest_spec false h hpos
  obtain ⟨m, hm, hscale, hrescaled, -⟩ := Number.exists_scale_shortest negative h hpos
  have hlow := Json.le_exponent h hpos hrounds hdigits
  have hhigh := Json.exponent_le h hpos hrounds
  have hread := Json.Reading.readsScaled_text (Json.digits_pos h hpos hrounds)
    (Nat.lt_of_le_of_lt hdigits (by decide)) (by omega) hplaces
  rw [hrescaled]
  exact Json.Reading.readsFloat_of_readsScaled hread hscale negative

theorem rereadNumber_written (n : Number) :
    Json.Written (rereadNumber n) (wholeNumber n).compact := by
  rw [rereadNumber, wholeNumber]
  cases hnone : int64OfNumber? n with
  | some i => exact .integer i
  | none =>
    cases hfinite : n.isFinite with
    | true => exact .float (readsFloat_rescaled hfinite hnone)
    | false => exact .null

theorem rereadNumber_nests (n : Number) (room : Nat) : Json.Nests room (rereadNumber n) := by
  rw [rereadNumber]
  cases hnone : int64OfNumber? n with
  | some i =>
    have hbounds := int64OfNumber?_eq_some_iff.mp hnone
    have hleast : Json.Reading.integerLeast ≤ i := by
      unfold Json.Reading.integerLeast
      omega
    have hlimit : i < Json.Reading.significandLimit := by
      unfold Json.Reading.significandLimit
      omega
    exact .integer hleast hlimit
  | none =>
    cases n.isFinite with
    | true => exact .float _
    | false => exact .null

/-- What becomes of a number is read in place of its image. -/
theorem rereadNumber_build (n : Number) : (rereadNumber n).build builder =
    ((Value.number n).image .json).mapNumbers Number.reread := by
  cases hfinite : n.isFinite with
  | true =>
    have himage : (Value.number n).image .json = number n := if_pos hfinite
    rw [himage]
    change _ = Value.number n.reread
    rw [rereadNumber, Number.reread, if_pos hfinite]
    cases int64OfNumber? n <;> rfl
  | false =>
    cases n with
    | finite => cases hfinite
    | nan | infinite => rfl

theorem itemsText_writesParts (number : Number → Json) :
    Json.WritesParts (fun v => (toJson number v).compact) ']'
      fun first items => Json.compactItems first (items.map (toJson number)) where
  ends _ := ⟨[], Json.Reading.isGap_nil, rfl⟩
  next _ _ _ := ⟨[], Json.Reading.isGap_nil, rfl⟩

theorem fieldsText_writesParts (number : Number → Json) :
    Json.WritesParts
      (fun field : String × Value => Json.quoted Json.controlLetter? field.1.toList ++
        ':' :: ([] ++ (toJson number field.2).compact))
      '\x7d' fun first fields =>
        Json.compactFields first (fields.map fun field => (field.1, toJson number field.2)) where
  ends _ := ⟨[], Json.Reading.isGap_nil, rfl⟩
  next _ _ _ := ⟨[], Json.Reading.isGap_nil, by simp [Json.compactFields]⟩

/-- Texts that are ways to write the numbers make up a text that is a way to write the value. -/
theorem toJson_written {read written : Number → Json}
    (h : ∀ n, Json.Written (read n) (written n).compact) (v : Value) :
    Json.Written (v.toJson read) (v.toJson written).compact := by
  induction v with
  | null | undefined | predicate p => exact .null
  | bool b => exact .bool b
  | number n => exact h n
  | string s | date t => exact .string Json.controlLetter?_read _
  | array items ih =>
    have hlisted : Json.Listed (fun v => Json.Written (toJson read v)) ']' true items _ :=
      (itemsText_writesParts written).listed ih true
    rw [toJson_array, toJson_array]
    exact .array (hlisted.map (toJson read))
  | object fields ih =>
    have hlisted : Json.Listed (fun field => Json.FieldWritten (field.1, toJson read field.2)) '\x7d'
        true fields _ :=
      (fieldsText_writesParts written).listed (fun field hfield =>
        .mk Json.controlLetter?_read field.1 Json.Reading.isGap_nil (ih field hfield)) true
    rw [toJson_object, toJson_object]
    exact .object (hlisted.map fun field : String × Value => (field.1, toJson read field.2))
  | regex p =>
    have hfits : Json.Fits 1 ((regex p).toJson written) :=
      .object (List.forall_mem_cons.2 ⟨.string _, List.forall_mem_singleton.2 (.string _)⟩)
    exact Json.compact_written hfits

theorem toJson_build {v : Value} (hkeys : v.WellFormed) :
    (v.toJson rereadNumber).build builder = (v.image .json).mapNumbers Number.reread := by
  induction v with
  | number n => exact rereadNumber_build n
  | array items ih =>
    rw [toJson_array, image, mapLeaves_array, mapNumbers, mapLeaves_array, Json.build,
      Json.buildItems_eq_map, List.map_map, List.map_map]
    exact congrArg array (List.map_congr_left fun v hv => ih v hv (wellFormed_array.1 hkeys v hv))
  | object fields ih =>
    obtain ⟨hdistinct, hfields⟩ := wellFormed_object.1 hkeys
    rw [toJson_object, image, mapLeaves_object, mapNumbers, mapLeaves_object, Json.build,
      Json.buildFields_eq_map, List.map_map, List.map_map]
    rw [← Fields.keys_map (fun v => (v.toJson rereadNumber).build builder)] at hdistinct
    refine congrArg object ((Fields.ofPairs_of_nodup hdistinct).trans ?_)
    exact List.map_congr_left fun field hfield =>
      congrArg (Prod.mk field.1) (ih field hfield (hfields field hfield))
  | _ => rfl

/-- A value comes back from its JSON text as its image, with what becomes of them in place of its
numbers. -/
theorem ofJsonText_jsonText {v : Value} (hkeys : v.WellFormed)
    (hnest : (v.image .json).containers ≤ Json.nestLimit) :
    ofJsonText v.jsonText = .ok ((v.image .json).mapNumbers Number.reread) := by
  rw [← toJson_build hkeys]
  exact Json.read_written builder
    (toJson_nesting Json.Nests.nesting (fun n _ => rereadNumber_nests n) hnest)
    (toJson_written rereadNumber_written v)

theorem ofJsonText_number {n : Number} (hfinite : n.isFinite = true) :
    ofJsonText (number n).jsonText = .ok (number n.reread) := by
  have himage : (number n).image .json = number n := if_pos hfinite
  have hread := ofJsonText_jsonText (v := number n) trivial (by simp [himage, containers])
  rwa [himage] at hread

/-- Every value in which at most 127 containers nest comes back from its JSON text as its image with
another number in place of each number. This other number is near the number. It is equal to the
number if that is written as an integer, or if its shortest decimal has digits up to 2^53 and a
power of ten up to 22 either way. -/
theorem numbers_read_back_near {v : Value} (hkeys : v.WellFormed)
    (hnest : (v.image .json).containers ≤ 127) :
    ofJsonText v.jsonText = .ok ((v.image .json).mapNumbers Number.reread) ∧
      ∀ n : Number, n.isFinite = true →
        ofJsonText (number n).jsonText = .ok (number n.reread) ∧ n.reread.Near n ∧
          ((number n).int64?.isSome = true ∨ n.ScalesExactly → (n.reread == n) = true) := by
  refine ⟨ofJsonText_jsonText hkeys hnest, fun n hfinite => ?_⟩
  exact ⟨ofJsonText_number hfinite, Number.reread_near hfinite, Number.reread_equal hfinite⟩

/-- A fraction that is scaled without loss, absence, and a number that comes back as another one. -/
theorem fractions_in_fields_read_back :
    let tenth : Number := .ofRatio false 1 10
    let half : Number := .ofRatio false (2 ^ 53 - 1) 2
    let v : Value := .object [("a", .array [.number tenth, .undefined]), ("b", .number half)]
    let w : Value :=
      .object [("a", .array [.number tenth, .null]), ("b", .number (.ofInt (2 ^ 52 - 1)))]
    ofJsonText v.jsonText = .ok w ∧ (tenth.reread == tenth) = true ∧ half.reread.Near half := by
  intro tenth half v w
  have htenth : tenth.isFinite = true ∧ tenth.reread = tenth ∧ tenth.ScalesExactly := by
    decide +kernel
  have hhalf : half.isFinite = true ∧ half.reread = .ofInt (2 ^ 52 - 1) := by decide +kernel
  -- What the numbers are would be computed again in each step.
  clear_value tenth half
  obtain ⟨htenth, htenthread, hexact⟩ := htenth
  obtain ⟨hhalf, hhalfread⟩ := hhalf
  have himage : v.image .json = .object [("a", .array [.number tenth, .null]), ("b", .number half)] := by
    simp only [v, image, mapLeaves, mapLeavesItems, mapLeavesFields, Substitutes.leaf, htenth,
      hhalf, if_true]
  have hkeys : v.WellFormed := by
    simp [v, WellFormed, FieldsWellFormed, AllWellFormed, Fields.keys]
  have hnest : (v.image .json).containers ≤ 127 := by
    simp [himage, containers, containersOfItems, containersOfFields]
  obtain ⟨htext, hnumbers⟩ := numbers_read_back_near hkeys hnest
  have hread : (v.image .json).mapNumbers Number.reread = w := by
    rw [himage]
    simp only [w, mapNumbers, mapLeaves, mapLeavesItems, mapLeavesFields, htenthread, hhalfread]
  rw [hread] at htext
  exact ⟨htext, (hnumbers tenth htenth).2.2 (Or.inr hexact), (hnumbers half hhalf).2.1⟩

/-- Half below 2^52 comes back without its half, alone and from an array, and a number within 128
arrays does not come back. -/
theorem half_below_two_pow_52_is_lost :
    let n : Number := .ofRatio false (2 ^ 53 - 1) 2
    let below : Number := .ofInt (2 ^ 52 - 1)
    n.isFinite = true ∧ (number n).jsonText = "4503599627370495.5" ∧
      ofJsonText (number n).jsonText = .ok (number below) ∧
      ofJsonText (array [number n]).jsonText = .ok (array [number below]) ∧ (below == n) = false ∧
      (ofJsonText (Nat.repeat (fun v => array [v]) 128 (number n)).jsonText).isOk = false := by
  intro n below
  have hfinite : n.isFinite = true := by decide +kernel
  have htext : (number n).jsonText = "4503599627370495.5" := by decide +kernel
  have hreread : n.reread = below := by decide +kernel
  have hne : (below == n) = false := by decide +kernel
  have hinside : ofJsonText (array [number n]).jsonText = .ok (array [number n.reread]) := by
    have himage : (array [number n]).image .json = array [number n] := by
      simp only [image, mapLeaves, mapLeavesItems, Substitutes.leaf, hfinite, if_true]
    have hread := ofJsonText_jsonText (v := array [number n]) ⟨trivial, trivial⟩
      (by simp [himage, containers, containersOfItems, Json.nestLimit])
    rwa [himage] at hread
  have halone := ofJsonText_number hfinite
  rw [hreread] at halone hinside
  refine ⟨hfinite, htext, halone, hinside, hne, ?_⟩
  -- The text is not packed into a string only to be taken apart again.
  rw [jsonText, ofJsonText, Json.read, String.toList_ofList]
  decide +kernel

end Value

end DocQuery
