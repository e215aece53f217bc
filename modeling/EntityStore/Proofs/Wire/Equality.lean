import EntityStore.Proofs.Wire.KeyCodec
import EntityStore.Proofs.Wire.Value

/-!
# Equality of messages

Messages are compared variant by variant, and their properties without regard to order. The messages
of two values are equal exactly if the values are, but for wrappers and the marks of keys.

* `Wire.Value.equal` — equality of messages;
* `Value.encode_erase` — wrappers leave no trace in a message;
* `Value.variant?_encode` — the message of a value has its variant;
* `Value.equal_encode` — equality of messages is equality of the values without wrappers.
-/

namespace EntityStore

/-! ### Equality -/

namespace Wire

mutual

/-- Whether two messages for values are equal. -/
def Value.equal (c : Comparison) : Value → Value → Bool
  | .mk a m x, .mk b n y => Content.equal c a b && m == n && x == y
termination_by structural v => v

/-- Whether two contents are equal. -/
def Content.equal (c : Comparison) : Content → Content → Bool
  | .unset, .unset => true
  | .null a, .null b => a == b
  | .boolean a, .boolean b => a == b
  | .integer a, .integer b => a == b
  | .double a, .double b => c.doubles a b
  | .timestamp s n, .timestamp t m => s == t && n == m
  | .key a, .key b => a == b
  | .string a, .string b => a == b
  | .blob a, .blob b => a == b
  | .geoPoint a, .geoPoint b =>
    c.doubles a.latitude b.latitude && c.doubles a.longitude b.longitude
  | .entity k a, .entity l b => k == l && a.length == b.length && equalFields c a b
  | .array a, .array b => equalItems c a b
  | _, _ => false
termination_by structural v => v

/-- Whether every property on the left has an equal one on the right. -/
def equalFields (c : Comparison) : List (String × Value) → List (String × Value) → Bool
  | [], _ => true
  | (name, v) :: rest, fields =>
    (match fields.lookup name with
      | some w => Value.equal c v w
      | none => false) && equalFields c rest fields
termination_by structural v => v

/-- Whether two lists of messages have equal items. -/
def equalItems (c : Comparison) : List Value → List Value → Bool
  | [], [] => true
  | a :: as, b :: bs => Value.equal c a b && equalItems c as bs
  | _, _ => false
termination_by structural v => v

end

/-- The variant that a content stands for. -/
def Content.variant? : Content → Option Variant
  | unset => none
  | null _ => some .option
  | boolean _ => some .boolean
  | integer _ => some .integer
  | double _ => some .double
  | timestamp _ _ => some .timestamp
  | key _ => some .key
  | string _ => some .string
  | blob _ => some .blob
  | geoPoint _ => some .geoPoint
  | entity _ _ => some .entity
  | array _ => some .array

variable {c : Comparison}

theorem Content.equal_of_variant_ne {a b : Content} (h : a.variant? ≠ b.variant?) :
    a.equal c b = false := by
  cases a <;> cases b <;> first | rfl | exact absurd rfl h

theorem Value.equal_plain (a b : Content) (x : Bool) :
    (Value.plain a x).equal c (.plain b x) = a.equal c b := by
  show (a.equal c b && (0 : Int32) == 0 && x == x) = a.equal c b
  rw [beq_self_eq_true, beq_self_eq_true, Bool.and_true, Bool.and_true]

end Wire

/-! ### Messages of values -/

/-- The messages of date-times are equal exactly if the date-times are. -/
theorem DateTime.equal_encode (c : Comparison) (s t : DateTime) :
    s.encode.equal c t.encode = (s == t) := by
  have hinj : s.encode = t.encode ↔ s = t := by
    refine ⟨fun h => ?_, congrArg DateTime.encode⟩
    have hdecode := congrArg Wire.Content.decode h
    rw [DateTime.decode_encode, DateTime.decode_encode] at hdecode
    exact Value.timestamp.inj (Except.ok.inj hdecode)
  rw [DateTime.encode, DateTime.encode, Wire.Content.timestamp.injEq] at hinj
  refine Bool.eq_iff_iff.mpr ?_
  rw [DateTime.encode, DateTime.encode, Wire.Content.equal, Bool.and_eq_true, beq_iff_eq,
    beq_iff_eq, beq_iff_eq]
  exact hinj

namespace Value

variable {c : Comparison}

theorem equal_of_variant_ne {a b : Value} (h : a.variant? ≠ b.variant?) :
    a.equal c b = false := by
  cases a <;> cases b <;> first | rfl | exact absurd rfl h

variable (project : String) (excluded : Bool)

mutual

/-- **Wrappers leave no trace in a message.** -/
theorem encode_erase : ∀ v : Value, v.erase.encode project excluded = v.encode project excluded
  | wrapped v => encode_erase v
  | entity fields => by
    rw [erase, encode, encode, encodeFields_erase fields]
  | array items => by
    rw [erase, encode, encode, encodeItems_erase items]
  | bare | null | boolean _ | integer _ | double _ | timestamp _ | key _ | string _ | blob _
  | geoPoint _ => rfl

theorem encodeFields_erase : ∀ fields,
    encodeFields project excluded (eraseFields fields) = encodeFields project excluded fields
  | [] => rfl
  | (name, v) :: rest => by
    rw [eraseFields, encodeFields, encodeFields, encode_erase v, encodeFields_erase rest]

theorem encodeItems_erase : ∀ items,
    encodeItems project excluded (eraseItems items) = encodeItems project excluded items
  | [] => rfl
  | v :: rest => by
    rw [eraseItems, encodeItems, encodeItems, encode_erase v, encodeItems_erase rest]

end

variable {project excluded}

/-- The message of a value has the variant of the value without wrappers. -/
theorem variant?_encode : ∀ {v : Value} {w : Wire.Value}, v.encode project excluded = .ok w →
    w.content.variant? = v.erase.variant?
  | wrapped v, _, h => variant?_encode (v := v) h
  | entity fields, _, h => by
    obtain ⟨ps, -, rfl⟩ := map_eq_ok h
    rfl
  | array items, _, h => by
    obtain ⟨ws, -, rfl⟩ := map_eq_ok h
    rfl
  | null, _, h | boolean _, _, h | integer _, _, h | double _, _, h | timestamp _, _, h
  | key _, _, h | string _, _, h | blob _, _, h | geoPoint _, _, h => by
    obtain rfl := Except.ok.inj h
    rfl

variable (project excluded) in
/-- A value that is well formed and has no wrappers, and its message. -/
structure Writes (v : Value) (w : Wire.Value) : Prop where
  wellFormed : v.WellFormed
  erased : v.erase = v
  encoded : v.encode project excluded = .ok w

/-- Values of different variants are unequal, and so are their messages. -/
theorem Writes.equal_of_variant_ne {a b : Value} {wa wb : Wire.Value}
    (hb : Writes project excluded b wb) (ha : a.encode project excluded = .ok wa)
    (h : a.erase.variant? ≠ b.variant?) : wa.equal c wb = a.erase.equal c b := by
  have hcontent : wa.content.variant? ≠ wb.content.variant? := by
    rwa [variant?_encode ha, variant?_encode hb.encoded, hb.erased]
  rw [Value.equal_of_variant_ne h]
  obtain ⟨x, m, e⟩ := wa
  obtain ⟨y, n, f⟩ := wb
  show (x.equal c y && m == n && e == f) = false
  rw [Wire.Content.equal_of_variant_ne (a := x) (b := y) hcontent]
  rfl

/-- The properties of a value without wrappers stand under the same names as their messages. -/
theorem entrywise_writes {fields : List (String × Value)} {ps : List (String × Wire.Value)}
    (h : WellFormedFields fields) (herased : eraseFields fields = fields)
    (hps : encodeFields project excluded fields = .ok ps) :
    Entrywise (Writes project excluded) fields ps := by
  induction fields generalizing ps with
  | nil =>
    obtain rfl := Except.ok.inj hps
    exact .nil
  | cons e rest ih =>
    obtain ⟨name, v⟩ := e
    obtain ⟨hfirst, hrest⟩ := List.cons.inj herased
    rw [encodeFields_cons] at hps
    obtain ⟨w, qs, hw, hqs, rfl⟩ := both_eq_ok hps
    exact .cons ⟨rfl, h.1, (Prod.mk.inj hfirst).2, hw⟩ (ih h.2 hrest hqs)

/-- The items of a value without wrappers stand at the same places as their messages. -/
theorem forall₂_writes {items : List Value} {ws : List Wire.Value} (h : WellFormedItems items)
    (herased : eraseItems items = items) (hws : encodeItems project excluded items = .ok ws) :
    List.Forall₂ (Writes project excluded) items ws := by
  induction items generalizing ws with
  | nil =>
    obtain rfl := Except.ok.inj hws
    exact .nil
  | cons v rest ih =>
    obtain ⟨hfirst, hrest⟩ := List.cons.inj herased
    rw [encodeItems_cons] at hws
    obtain ⟨w, xs, hw, hxs, rfl⟩ := both_eq_ok hws
    exact .cons ⟨h.1, hfirst, hw⟩ (ih h.2 hrest hxs)

theorem length_encodeFields {fields : List (String × Value)} {ps : List (String × Wire.Value)}
    (h : encodeFields project excluded fields = .ok ps) : ps.length = fields.length := by
  induction fields generalizing ps with
  | nil =>
    obtain rfl := Except.ok.inj h
    rfl
  | cons e rest ih =>
    obtain ⟨name, v⟩ := e
    rw [encodeFields_cons] at h
    obtain ⟨w, qs, -, hqs, rfl⟩ := both_eq_ok h
    rw [List.length_cons, ih hqs, List.length_cons]

mutual

/-- The induction is on the first value; its wrappers are passed, and the second has none. -/
theorem equal_of_writes : ∀ (a : Value) (wa : Wire.Value), a.WellFormed →
    a.encode project excluded = .ok wa → ∀ (b : Value) (wb : Wire.Value),
      Writes project excluded b wb → wa.equal c wb = a.erase.equal c b
  | wrapped a, wa, h, ha, b, wb, hb => equal_of_writes a wa h ha b wb hb
  | entity fields, wa, h, ha, b, wb, hb => by
    cases b with
    | entity others =>
      obtain ⟨ps, hps, rfl⟩ := map_eq_ok ha
      obtain ⟨qs, hqs, rfl⟩ := map_eq_ok hb.encoded
      have hothers := entrywise_writes hb.wellFormed.2 (entity.inj hb.erased) hqs
      rw [Wire.Value.equal_plain, Wire.Content.equal, erase, equal, length_eraseFields,
        length_encodeFields hps, length_encodeFields hqs,
        equalFields_of_writes fields ps h.2 hps others qs hothers]
      rfl
    | _ => exact hb.equal_of_variant_ne ha nofun
  | array items, wa, h, ha, b, wb, hb => by
    cases b with
    | array others =>
      obtain ⟨ws, hws, rfl⟩ := map_eq_ok ha
      obtain ⟨xs, hxs, rfl⟩ := map_eq_ok hb.encoded
      rw [Wire.Value.equal_plain, Wire.Content.equal, erase, equal]
      exact equalItems_of_writes items ws h hws others xs
        (forall₂_writes hb.wellFormed (array.inj hb.erased) hxs)
    | _ => exact hb.equal_of_variant_ne ha nofun
  | key k, wa, h, ha, b, wb, hb => by
    cases b with
    | key l =>
      obtain rfl := Except.ok.inj ha
      obtain rfl := Except.ok.inj hb.encoded
      rw [Wire.Value.equal_plain]
      exact Bool.eq_iff_iff.mpr (beq_iff_eq.trans (Key.encode_eq_iff project h hb.wellFormed))
    | _ => exact hb.equal_of_variant_ne ha nofun
  | timestamp t, wa, h, ha, b, wb, hb => by
    cases b with
    | timestamp s =>
      obtain rfl := Except.ok.inj ha
      obtain rfl := Except.ok.inj hb.encoded
      rw [Wire.Value.equal_plain]
      exact t.equal_encode c s
    | _ => exact hb.equal_of_variant_ne ha nofun
  | bare, _, _, ha, _, _, _ => nomatch ha
  | null, wa, h, ha, b, wb, hb => by
    cases b with
    | null =>
      obtain rfl := Except.ok.inj ha
      obtain rfl := Except.ok.inj hb.encoded
      exact Wire.Value.equal_plain _ _ _
    | wrapped v => exact absurd hb.erased (v.erase_ne_wrapped v)
    | _ => exact hb.equal_of_variant_ne ha nofun
  | boolean _, _, _, ha, b, _, hb | integer _, _, _, ha, b, _, hb | double _, _, _, ha, b, _, hb
  | string _, _, _, ha, b, _, hb | blob _, _, _, ha, b, _, hb | geoPoint _, _, _, ha, b, _, hb => by
    obtain rfl := Except.ok.inj ha
    cases b <;> first
      | obtain rfl := Except.ok.inj hb.encoded
        exact Wire.Value.equal_plain _ _ _
      | exact hb.equal_of_variant_ne ha nofun

theorem equalFields_of_writes : ∀ fields ps, WellFormedFields fields →
    encodeFields project excluded fields = .ok ps →
      ∀ others qs, Entrywise (Writes project excluded) others qs →
        Wire.equalFields c ps qs = equalFields c (eraseFields fields) others
  | [], _, _, hps, _, _, _ => by
    obtain rfl := Except.ok.inj hps
    rfl
  | (name, v) :: rest, _, h, hps, others, qs, hothers => by
    rw [encodeFields_cons] at hps
    obtain ⟨w, ws, hw, hws, rfl⟩ := both_eq_ok hps
    rw [eraseFields, Wire.equalFields, equalFields,
      equalFields_of_writes rest ws h.2 hws others qs hothers]
    rcases hothers.lookup name with ⟨hothers, hqs⟩ | ⟨x, y, hx, hy, hxy⟩
    · rw [hothers, hqs]
    · rw [hx, hy]
      simp only [equal_of_writes v w h.1 hw x y hxy]

theorem equalItems_of_writes : ∀ items ws, WellFormedItems items →
    encodeItems project excluded items = .ok ws →
      ∀ others xs, List.Forall₂ (Writes project excluded) others xs →
        Wire.equalItems c ws xs = equalItems c (eraseItems items) others
  | [], _, _, hws, _, _, hothers => by
    obtain rfl := Except.ok.inj hws
    cases hothers <;> rfl
  | v :: rest, _, h, hws, _, _, hothers => by
    rw [encodeItems_cons] at hws
    obtain ⟨w, vs, hw, hvs, rfl⟩ := both_eq_ok hws
    cases hothers with
    | nil => rfl
    | @cons x y others xs hxy hothers =>
      rw [eraseItems, Wire.equalItems, equalItems, equal_of_writes v w h.1 hw x y hxy,
        equalItems_of_writes rest vs h.2 hvs others xs hothers]

end

/-- **Messages are equal exactly if the values are**, without their wrappers. -/
theorem equal_encode {a b : Value} {wa wb : Wire.Value} (ha : a.WellFormed) (hb : b.WellFormed)
    (hwa : a.encode project excluded = .ok wa) (hwb : b.encode project excluded = .ok wb) :
    wa.equal c wb = a.erase.equal c b.erase :=
  equal_of_writes a wa ha hwa b.erase wb
    ⟨b.wellFormed_erase hb, b.erase_erase, (b.encode_erase project excluded).trans hwb⟩

end Value
end EntityStore
