import EntityStore.Proofs.Calendar
import EntityStore.Proofs.Outcome
import EntityStore.Proofs.Value
import EntityStore.Proofs.Wire.Key
import EntityStore.Wire.Entity

/-!
# Values and entities survive their messages

Writing a value as a message and reading the message gives the value without its wrappers, for
values of any depth and with either flag. Only a value of no variant has no message.

* `DateTime.decode_seconds` — date-times go through seconds and nanoseconds unharmed;
* `Value.encode_of_hasBare` — a value of no variant is refused wherever it occurs;
* `Value.decode_encode` — what is read is the value that was written, without wrappers and marks;
* `Entity.decode_encode` — the same for entities, under any policy;
* `wire_round_trip` — both round trips, up to equality.
-/

namespace EntityStore

/-! ### Date-times -/

/-- **The round trip of date-times.** Every date-time lies in the range that can be read. -/
theorem DateTime.decode_seconds (t : DateTime) :
    DateTime.decode t.seconds (t.time.microsecond * 1000 : Nat) = .ok t := by
  have hlower := t.seconds_lower
  have hupper := t.seconds_upper
  have hmicro := t.time.microsecond_lt
  have hrange :
      ¬ (decide (t.seconds < -62135596800) || decide (253402300799 < t.seconds)) = true := by
    rw [Bool.or_eq_true, decide_eq_true_eq, decide_eq_true_eq]
    omega
  have hnanos : (0 : Int) ≤ (t.time.microsecond * 1000 : Nat)
      ∧ ((t.time.microsecond * 1000 : Nat) : Int) ≤ 999999999 := by omega
  have hmicros : (⟨(((t.time.microsecond * 1000 : Nat) : Int) / 1000).toNat,
      DateTime.micros_lt hnanos⟩ : Fin 1000000) = t.micros := by
    apply Fin.ext
    show (((t.time.microsecond * 1000 : Nat) : Int) / 1000).toNat = t.time.microsecond
    omega
  unfold DateTime.decode
  rw [if_neg hrange, dif_pos hnanos, hmicros, DateTime.ofSeconds?_seconds]

theorem DateTime.decode_encode (t : DateTime) : t.encode.decode = .ok (.timestamp t) := by
  have hlower := t.seconds_lower
  have hupper := t.seconds_upper
  have hmicro := t.time.microsecond_lt
  show (DateTime.decode (Int64.ofInt t.seconds).toInt
    (Int32.ofInt (t.time.microsecond * 1000 : Nat)).toInt).map Value.timestamp = _
  rw [Int64.toInt_ofInt_of_le (by omega) (by omega), Int32.toInt_ofInt_of_le (by omega) (by omega),
    DateTime.decode_seconds]
  rfl

/-! ### Values -/

namespace Value

variable (project : String) (excluded : Bool)

/-- Properties are treated one by one. -/
theorem encodeFields_cons (name : String) (v : Value) (rest : List (String × Value)) :
    encodeFields project excluded ((name, v) :: rest) = (encode project excluded v).bind fun w =>
      (encodeFields project excluded rest).map ((name, w) :: ·) := by
  rw [encodeFields]
  cases encode project excluded v <;> rfl

/-- Items are treated one by one. -/
theorem encodeItems_cons (v : Value) (rest : List Value) :
    encodeItems project excluded (v :: rest) = (encode project excluded v).bind fun w =>
      (encodeItems project excluded rest).map (w :: ·) := by
  rw [encodeItems]
  cases encode project excluded v <;> rfl

mutual

/-- **A value of no variant is refused wherever it occurs.** -/
theorem encode_of_hasBare :
    ∀ v : Value, v.hasBare = true → v.encode project excluded = .error (.type .notEncodable)
  | bare, _ => rfl
  | wrapped v, h => encode_of_hasBare v h
  | entity fields, h => by
    rw [encode, encodeFields_of_hasBare fields h]
    rfl
  | array items, h => by
    rw [encode, encodeItems_of_hasBare items h]
    rfl
  | null, h | boolean _, h | integer _, h | double _, h | timestamp _, h | key _, h | string _, h
  | blob _, h | geoPoint _, h => nomatch h

theorem encodeFields_of_hasBare :
    ∀ fields, hasBareFields fields = true →
      encodeFields project excluded fields = .error (.type .notEncodable)
  | [], h => nomatch h
  | (name, v) :: rest, h => by
    cases hv : v.hasBare with
    | true => rw [encodeFields, encode_of_hasBare v hv]
    | false =>
      rw [hasBareFields, hv, Bool.false_or] at h
      obtain ⟨w, hw⟩ := encode_of_not_hasBare v hv
      rw [encodeFields, hw, encodeFields_of_hasBare rest h]
      rfl

theorem encodeItems_of_hasBare :
    ∀ items, hasBareItems items = true →
      encodeItems project excluded items = .error (.type .notEncodable)
  | [], h => nomatch h
  | v :: rest, h => by
    cases hv : v.hasBare with
    | true => rw [encodeItems, encode_of_hasBare v hv]
    | false =>
      rw [hasBareItems, hv, Bool.false_or] at h
      obtain ⟨w, hw⟩ := encode_of_not_hasBare v hv
      rw [encodeItems, hw, encodeItems_of_hasBare rest h]
      rfl

/-- Every other value has a message. -/
theorem encode_of_not_hasBare :
    ∀ v : Value, v.hasBare = false → ∃ w, v.encode project excluded = .ok w
  | bare, h => nomatch h
  | wrapped v, h => encode_of_not_hasBare v h
  | entity fields, h => by
    obtain ⟨ps, hps⟩ := encodeFields_of_not_hasBare fields h
    refine ⟨.plain (.entity none ps) excluded, ?_⟩
    rw [encode, hps]
    rfl
  | array items, h => by
    obtain ⟨ws, hws⟩ := encodeItems_of_not_hasBare items h
    refine ⟨.plain (.array ws) false, ?_⟩
    rw [encode, hws]
    rfl
  | null, _ | boolean _, _ | integer _, _ | double _, _ | timestamp _, _ | key _, _ | string _, _
  | blob _, _ | geoPoint _, _ => ⟨_, rfl⟩

theorem encodeFields_of_not_hasBare :
    ∀ fields, hasBareFields fields = false → ∃ ps, encodeFields project excluded fields = .ok ps
  | [], _ => ⟨[], rfl⟩
  | (name, v) :: rest, h => by
    obtain ⟨hv, hrest⟩ := Bool.or_eq_false_iff.mp h
    obtain ⟨w, hw⟩ := encode_of_not_hasBare v hv
    obtain ⟨ps, hps⟩ := encodeFields_of_not_hasBare rest hrest
    refine ⟨(name, w) :: ps, ?_⟩
    rw [encodeFields, hw, hps]
    rfl

theorem encodeItems_of_not_hasBare :
    ∀ items, hasBareItems items = false → ∃ ws, encodeItems project excluded items = .ok ws
  | [], _ => ⟨[], rfl⟩
  | v :: rest, h => by
    obtain ⟨hv, hrest⟩ := Bool.or_eq_false_iff.mp h
    obtain ⟨w, hw⟩ := encode_of_not_hasBare v hv
    obtain ⟨ws, hws⟩ := encodeItems_of_not_hasBare rest hrest
    refine ⟨w :: ws, ?_⟩
    rw [encodeItems, hw, hws]
    rfl

end

mutual

/-- **The message of a value is read as the value**, without wrappers and without marks. -/
theorem decode_encode :
    ∀ (v : Value) (w : Wire.Value), v.WellFormed → v.encode project excluded = .ok w →
      w.decode = .ok v.erase.unmarked
  | bare, _, _, hw => nomatch hw
  | wrapped v, w, h, hw => decode_encode v w h hw
  | timestamp t, _, _, hw => by
    obtain rfl := Except.ok.inj hw
    exact t.decode_encode
  | key k, _, h, hw => by
    obtain rfl := Except.ok.inj hw
    show (k.encode project).decode.map Value.key = _
    rw [Key.decode_encode project h]
    rfl
  | entity fields, w, h, hw => by
    obtain ⟨ps, hps, rfl⟩ := map_eq_ok hw
    show (Wire.decodeFields ps).map Value.entity = _
    rw [decodeFields_encode fields ps h.2 hps]
    rfl
  | array items, w, h, hw => by
    obtain ⟨ws, hws, rfl⟩ := map_eq_ok hw
    show (Wire.decodeItems ws).map Value.array = _
    rw [decodeItems_encode items ws h hws]
    rfl
  | null, _, _, hw | boolean _, _, _, hw | integer _, _, _, hw | double _, _, _, hw
  | string _, _, _, hw | blob _, _, _, hw | geoPoint _, _, _, hw => by
    obtain rfl := Except.ok.inj hw
    rfl

theorem decodeFields_encode :
    ∀ fields ps, WellFormedFields fields → encodeFields project excluded fields = .ok ps →
      Wire.decodeFields ps = .ok (unmarkedFields (eraseFields fields))
  | [], _, _, hps => by
    obtain rfl := Except.ok.inj hps
    rfl
  | (name, v) :: rest, _, h, hps => by
    rw [encodeFields_cons] at hps
    obtain ⟨w, qs, hw, hqs, rfl⟩ := both_eq_ok hps
    rw [Wire.decodeFields, decode_encode v w h.1 hw, decodeFields_encode rest qs h.2 hqs]
    rfl

theorem decodeItems_encode :
    ∀ items ws, WellFormedItems items → encodeItems project excluded items = .ok ws →
      Wire.decodeItems ws = .ok (unmarkedItems (eraseItems items))
  | [], _, _, hws => by
    obtain rfl := Except.ok.inj hws
    rfl
  | v :: rest, _, h, hws => by
    rw [encodeItems_cons] at hws
    obtain ⟨w, xs, hw, hxs, rfl⟩ := both_eq_ok hws
    rw [Wire.decodeItems, decode_encode v w h.1 hw, decodeItems_encode rest xs h.2 hxs]
    rfl

end

end Value

/-! ### Entities -/

namespace Entity

variable (project : String) (policy : Policy)

theorem encodeProperties_cons (kind name : String) (v : Value) (rest : List (String × Value)) :
    encodeProperties project policy kind ((name, v) :: rest)
      = (v.encode project (policy.isExcluded kind name)).bind fun w =>
        (encodeProperties project policy kind rest).map ((name, w) :: ·) := by
  rw [encodeProperties]
  cases v.encode project (policy.isExcluded kind name) <;> rfl

theorem encodeProperties_of_not_hasBare (kind : String) :
    ∀ fields, Value.hasBareFields fields = false →
      ∃ ps, encodeProperties project policy kind fields = .ok ps
  | [], _ => ⟨[], rfl⟩
  | (name, v) :: rest, h => by
    obtain ⟨hv, hrest⟩ := Bool.or_eq_false_iff.mp h
    obtain ⟨w, hw⟩ := v.encode_of_not_hasBare project (policy.isExcluded kind name) hv
    obtain ⟨ps, hps⟩ := encodeProperties_of_not_hasBare kind rest hrest
    refine ⟨(name, w) :: ps, ?_⟩
    rw [encodeProperties, hw, hps]
    rfl

/-- The flags of a policy differ from property to property; none of them is read. -/
theorem decodeFields_encodeProperties (kind : String) :
    ∀ fields ps, Value.WellFormedFields fields →
      encodeProperties project policy kind fields = .ok ps →
      Wire.decodeFields ps = .ok (Value.unmarkedFields (Value.eraseFields fields))
  | [], _, _, hps => by
    obtain rfl := Except.ok.inj hps
    rfl
  | (name, v) :: rest, _, h, hps => by
    rw [encodeProperties_cons] at hps
    obtain ⟨w, qs, hw, hqs, rfl⟩ := both_eq_ok hps
    rw [Wire.decodeFields, v.decode_encode project _ w h.1 hw,
      decodeFields_encodeProperties kind rest qs h.2 hqs]
    rfl

/-- The key and the properties are well formed. -/
def WellFormed (e : Entity) : Prop :=
  e.key.WellFormed ∧ (Value.entity e.properties).WellFormed

/-- Whether a value of no variant occurs in the properties. -/
def hasBare (e : Entity) : Bool :=
  Value.hasBareFields e.properties

/-- The entity with properties without wrappers. -/
def erase (e : Entity) : Entity :=
  ⟨e.key, Value.eraseFields e.properties⟩

/-- **The message of an entity is read as the entity**, without wrappers and without marks. -/
theorem decode_encode {e : Entity} {w : Wire.Entity} (h : e.WellFormed)
    (hw : e.encode project policy = .ok w) :
    w.decode = .ok ⟨e.key.unmarked, Value.unmarkedFields e.erase.properties⟩ := by
  obtain ⟨ps, hps, rfl⟩ := map_eq_ok hw
  simp only [Wire.Entity.decode]
  rw [decodeFields_encodeProperties project policy e.key.kind e.properties ps h.2.2 hps,
    Key.decode_encode project h.1]
  rfl

end Entity

/-! ### Equality of what is read -/

/-- **The wire round trip.** Every value in which no value of no variant occurs has a message, with
either flag, and the message is read as a value that equals the first one without its wrappers.
Every other value is refused. The same holds of entities, whatever properties a policy excludes. -/
theorem wire_round_trip (project : String) :
    (∀ (excluded : Bool) (v : Value), v.WellFormed → v.hasBare = false →
      ∃ w r, v.encode project excluded = .ok w ∧ w.decode = .ok r ∧ r.equal .bits v.erase = true) ∧
    (∀ (excluded : Bool) (v : Value),
      v.encode project excluded = .error (.type .notEncodable) ↔ v.hasBare = true) ∧
    (∀ (policy : Policy) (e : Entity), e.WellFormed → e.hasBare = false →
      ∃ w r, e.encode project policy = .ok w ∧ w.decode = .ok r ∧
        r.equal .bits e.erase = true) := by
  refine ⟨?_, ?_, ?_⟩
  · intro excluded v h hbare
    obtain ⟨w, hw⟩ := v.encode_of_not_hasBare project excluded hbare
    refine ⟨w, v.erase.unmarked, hw, v.decode_encode project excluded w h hw, ?_⟩
    exact v.erase.equal_unmarked (v.wellFormed_erase h) (v.hasBare_erase.trans hbare)
  · intro excluded v
    constructor
    · intro herror
      cases hbare : v.hasBare with
      | true => rfl
      | false =>
        obtain ⟨w, hw⟩ := v.encode_of_not_hasBare project excluded hbare
        rw [hw] at herror
        cases herror
    · exact v.encode_of_hasBare project excluded
  · intro policy e h hbare
    obtain ⟨ps, hps⟩ := Entity.encodeProperties_of_not_hasBare project policy e.key.kind
      e.properties hbare
    have hw : e.encode project policy = .ok ⟨some (e.key.encode project), ps⟩ := by
      rw [Entity.encode, hps]
      rfl
    refine ⟨_, _, hw, Entity.decode_encode project policy h hw, ?_⟩
    have hproperties := (Value.entity e.erase.properties).equal_unmarked
      ((Value.entity e.properties).wellFormed_erase h.2)
      ((Value.entity e.properties).hasBare_erase.trans hbare)
    rw [Entity.equal, Bool.and_eq_true]
    exact ⟨e.key.unmarked_same, hproperties⟩

/-- The key of a new booking below a guest. -/
def bookingKey : Key :=
  .child (.root (some "n") ⟨"Guest", some (.name "g"), false, false⟩) (some "n")
    ⟨"Booking", none, true, false⟩

/-- A wrapped array loses its wrapper, the empty array in it stays, and the key of a new entity
equals the one that is read. -/
theorem wire_round_trip_booking :
    (∃ w r, (Value.wrapped (.array [.wrapped .null, .array []])).encode "p" true = .ok w ∧
      w.decode = .ok r ∧ r.equal .bits (.array [.null, .array []]) = true) ∧
    (∃ w r, (Entity.mk bookingKey [("rooms", .wrapped (.array [])), ("note", .string "")]).encode
        "p" .empty = .ok w ∧ w.decode = .ok r ∧
      r.equal .bits ⟨bookingKey, [("rooms", .array []), ("note", .string "")]⟩ = true) := by
  obtain ⟨hvalues, -, hentities⟩ := wire_round_trip "p"
  refine ⟨hvalues true _ ⟨trivial, trivial, trivial⟩ rfl, hentities .empty _ ⟨?_, ?_⟩ rfl⟩
  · exact ⟨⟨by decide, by decide⟩, rfl, by decide⟩
  · exact ⟨by decide, trivial, trivial, trivial⟩

end EntityStore
