import EntityStore.Proofs.Calendar
import EntityStore.Proofs.Convert.SharedNames

/-!
# What keeps an object from being converted

A conversion comes to the objects inside of an object and to the names of mappings one after the
other, and stops at the first one that it has no value for.

* `Visit`, `Native.visits` — the places that a conversion comes to, in order;
* `Visit.Offends` — what can be wrong at a place, with the error;
* `Visit.IsWhole` — instances that have what their types declare;
* `error?_intoValue` — the error of a conversion is that of the first place that has one;
* `intoValue_failsAtFirst` — what is converted, and how everything else fails.
-/

namespace EntityStore

open Outcome

/-- A place that a conversion comes to: an object, or the name of an entry of a mapping. -/
inductive Visit
  | object (n : Native)
  | name (n : Native)

/-- The fields that a conversion of an instance comes to, in the order in which they are declared. A
type that takes no part in conversions has none. -/
def Schema.visitedFields (s : Schema) (type : String) : List Field :=
  match s.record? type with
  | some r => if r.casing?.isSome then r.fields.filter (·.isInit) else []
  | none => []

variable (s : Schema)

namespace Native

mutual

/-- The places inside of an object. -/
def inner : Native → List Visit
  | mapping _ entries => entryVisits entries
  | list items => itemVisits items
  | tuple items => itemVisits items
  | record type fields =>
    (s.visitedFields type).flatMap fun f => ((fieldVisits fields).lookup f.name).getD []
  | null | boolean _ | integer _ | derivedInteger _ | double _ | string _ | derivedString _
  | binary _ _ | dateTime _ _ | key _ | geoPoint _ | value _ | converter _ | enum _ _ | entity _
  | keyless | recordType _ | other _ => []

/-- The places in the entries of a mapping. The name of an entry comes before its object. -/
def entryVisits : List (Native × Native) → List Visit
  | [] => []
  | (name, item) :: rest => .name name :: .object item :: (item.inner ++ entryVisits rest)

/-- The places in the items of a list. -/
def itemVisits : List Native → List Visit
  | [] => []
  | item :: rest => .object item :: (item.inner ++ itemVisits rest)

/-- The places in each attribute of an instance. -/
def fieldVisits : List (String × Native) → List (String × List Visit)
  | [] => []
  | (name, n) :: rest => (name, .object n :: n.inner) :: fieldVisits rest

end

/-- The places that the conversion of an object comes to, from the object itself on. -/
def visits (n : Native) : List Visit :=
  .object n :: n.inner s

/-- Whether an object is of a kind that is converted. Of defined types these are the records that
take part in conversions, and the members of enums. -/
def IsSupported : Native → Prop
  | record type _ => ∃ r, s.record? type = some r ∧ r.casing?.isSome = true
  | enum type member => ∃ e wire, s.enum? type = some e ∧ e.wireName? member = some wire
  | entity _ | keyless | recordType _ | other _ => False
  | null | boolean _ | integer _ | derivedInteger _ | double _ | string _ | derivedString _
  | binary _ _ | dateTime _ _ | key _ | geoPoint _ | mapping _ _ | list _ | tuple _ | value _
  | converter _ => True

/-- The number that an object is. Truth values are none. -/
def number? : Native → Option Int
  | integer n | derivedInteger n => some n
  | _ => none

end Native

namespace Visit

/-- What is wrong at a place, and the error for it: an object of a kind that is not converted, a
name that is no string, an integer of more than 64 bits, or a date-time that has a zone and, in UTC,
lies in no year from 1 to 9999. -/
inductive Offends : Visit → Error → Prop
  | kind {n : Native} (h : ¬ n.IsSupported s) :
      Offends (.object n) (.type (.notConvertible n.typeName))
  | name {n : Native} (h : n.string? = none) : Offends (.name n) (.type (.propertyName n.typeName))
  | integer {n : Native} {i : Int} (hn : n.number? = some i)
      (h : i < -9223372036854775808 ∨ 9223372036854775807 < i) :
      Offends (.object n) (.value (.integerRange i))
  | dateTime {t : DateTime} {offset : Int} (h : ∀ u : DateTime, u.seconds ≠ t.seconds - offset) :
      Offends (.object (.dateTime t (some offset))) .overflow

/-- An instance of a record that takes part in conversions has an object for every field that is
given at construction, and all types that the record mentions are defined. -/
def IsWhole : Visit → Prop
  | object (.record type fields) =>
    ∀ r, s.record? type = some r → r.casing?.isSome = true →
      (∀ name ∈ r.annotations.flatMap Target.names, (s.lookup name).isSome = true) ∧
      ∀ f ∈ r.fields, f.isInit = true → ∃ n, fields.lookup f.name = some n
  | _ => True

/-- The error of a place by itself. -/
def fault? : Visit → Option Error
  | name n => if n.string?.isSome then none else some (.type (.propertyName n.typeName))
  | object (.mapping _ _) | object (.list _) | object (.tuple _) => none
  | object (.record type _) =>
    if ((s.record? type).bind (·.casing?)).isSome then none
    else some (.type (.notConvertible type))
  | object n => error? (intoValue s n)

end Visit

variable {s : Schema}

/-! ### Places by themselves -/

theorem fitsInt64_eq_false_iff {i : Int} :
    fitsInt64 i = false ↔ i < -9223372036854775808 ∨ 9223372036854775807 < i := by
  unfold fitsInt64
  rw [Bool.and_eq_false_iff, decide_eq_false_iff_not, decide_eq_false_iff_not]
  omega

theorem error?_ofInt (i : Int) :
    error? (Value.ofInt i) = if fitsInt64 i then none else some (.value (.integerRange i)) := by
  rw [Value.ofInt]
  split <;> rfl

theorem Schema.recordValue_of_unsupported {type : String}
    (h : (s.record? type).bind (·.casing?) = none) (values : List (String × Outcome Value)) :
    s.recordValue type values = .error (.type (.notConvertible type)) := by
  rw [recordValue]
  cases hr : s.record? type with
  | none => rfl
  | some r =>
    have hcasing : r.casing? = none := by simpa [hr] using h
    simp [hcasing]

namespace Visit

variable {e : Error}

theorem offends_name_iff {n : Native} :
    (name n).Offends s e ↔ n.string? = none ∧ Error.type (.propertyName n.typeName) = e := by
  constructor
  · rintro ⟨⟩
    exact ⟨by assumption, rfl⟩
  · rintro ⟨h, rfl⟩
    exact .name h

theorem offends_object_iff {n : Native} :
    (object n).Offends s e ↔
      (¬ n.IsSupported s ∧ Error.type (.notConvertible n.typeName) = e) ∨
      (∃ i, n.number? = some i ∧ fitsInt64 i = false ∧ Error.value (.integerRange i) = e) ∨
      ∃ t offset, n = .dateTime t (some offset) ∧ t.shift? (-offset) = none ∧
        Error.overflow = e := by
  simp only [fitsInt64_eq_false_iff, DateTime.shift?_eq_none_iff, ← Int.sub_eq_add_neg]
  constructor
  · rintro (hkind | _ | ⟨hn, hrange⟩ | hlate)
    · exact .inl ⟨hkind, rfl⟩
    · exact .inr (.inl ⟨_, hn, hrange, rfl⟩)
    · exact .inr (.inr ⟨_, _, rfl, hlate, rfl⟩)
  · rintro (⟨hkind, rfl⟩ | ⟨i, hn, hrange, rfl⟩ | ⟨t, offset, rfl, hlate, rfl⟩)
    · exact .kind hkind
    · exact .integer hn hrange
    · exact .dateTime hlate

theorem error?_intoValue_dateTime (t : DateTime) (offset : Option Int) :
    error? (t.intoValue offset) = some e ↔
      ∃ seconds, offset = some seconds ∧ t.shift? (-seconds) = none ∧ Error.overflow = e := by
  unfold DateTime.intoValue
  cases offset with
  | none => simp [error?]
  | some seconds =>
    dsimp only
    generalize hshifted : t.shift? (-seconds) = shifted
    cases shifted <;> simp [hshifted, error?]

/-- The error of a place is the error for what is wrong there. -/
theorem fault?_eq_some_iff (p : Visit) (e : Error) : p.fault? s = some e ↔ p.Offends s e := by
  cases p with
  | name n =>
    rw [offends_name_iff, fault?]
    cases n.string? <;> simp
  | object n =>
    rw [offends_object_iff]
    cases n with
    | integer i | derivedInteger i =>
      simp only [fault?, intoValue, error?_ofInt, Native.number?, Native.IsSupported]
      cases hfits : fitsInt64 i <;> simp [hfits]
    | dateTime t offset =>
      simp [fault?, intoValue, error?_intoValue_dateTime, Native.number?, Native.IsSupported]
    | record type fields =>
      simp only [fault?, Native.number?, Native.IsSupported, Native.typeName]
      cases s.record? type with
      | none => simp
      | some r => cases hcasing : r.casing? <;> simp [hcasing]
    | enum type member =>
      simp only [fault?, intoValue, Schema.memberValue, Native.number?, Native.IsSupported,
        Native.typeName]
      cases s.enum? type with
      | none => simp [error?]
      | some t => cases hwire : t.wireName? member <;> simp [hwire, error?]
    | entity | keyless | recordType | other | null | boolean | double | string | derivedString
    | binary | key | geoPoint | mapping | list | tuple | value | converter =>
      simp [fault?, intoValue, error?, Native.number?, Native.IsSupported, Native.typeName]

/-- Every instance that is constructed is whole, if all types that its record mentions are
defined. -/
theorem isWhole_of_instantiate {type : String} {arguments : List (String × Native)} {n : Native}
    (hs : s.WellFormed) (h : s.instantiate type arguments = .ok n)
    (hresolved : ∀ r, s.record? type = some r →
      ∀ name ∈ r.annotations.flatMap Target.names, (s.lookup name).isSome = true) :
    (object n).IsWhole s := by
  rw [Schema.instantiate] at h
  cases hr : s.record? type with
  | none =>
    rw [hr] at h
    cases h
  | some r =>
    rw [hr] at h
    dsimp only at h
    split at h
    · obtain ⟨entries, hentries, h⟩ := bind_eq_ok h
      obtain rfl := Except.ok.inj h
      intro r' hr' _
      obtain rfl := Option.some.inj (hr.symm.trans hr')
      refine ⟨hresolved r hr, fun f hf hinit => ?_⟩
      rw [mapM_fieldObject hentries, lookup_objects (hs.of_record? hr).2 hf, if_pos hinit]
      obtain ⟨entry, hentry⟩ := exists_mapM_iff.mp ⟨entries, hentries⟩ f hf
      rw [Schema.fieldObject, hinit] at hentry
      cases hgiven : arguments.lookup f.name with
      | some n => exact ⟨n, rfl⟩
      | none =>
        cases hdefault : f.default? with
        | some n => exact ⟨n, rfl⟩
        | none =>
          simp [hgiven, hdefault] at hentry
    · cases h

end Visit

/-! ### One place after the other -/

theorem intoItems_cons (n : Native) (rest : List Native) :
    intoItems s (n :: rest) = (intoValue s n).bind fun v => (intoItems s rest).map (v :: ·) := by
  rw [intoItems]
  cases intoValue s n <;> rfl

theorem intoEntries_cons {name : Native} {text : String} (h : name.string? = some text)
    (n : Native) (rest : List (Native × Native)) :
    intoEntries s ((name, n) :: rest) =
      (intoValue s n).bind fun v => (intoEntries s rest).map ((text, v) :: ·) := by
  rw [intoEntries, h]
  cases intoValue s n <;> rfl

/-- The error of an instance that is whole is that of the first attribute that has one, in the order
of the fields. -/
theorem error?_recordValue {type : String} {r : RecordType} {casing : Casing}
    {values : List (String × Outcome Value)} (hr : s.record? type = some r)
    (hcasing : r.casing? = some casing)
    (hresolved : ∀ name ∈ r.annotations.flatMap Target.names, (s.lookup name).isSome = true)
    (hvalues : ∀ f ∈ r.fields, f.isInit = true → ∃ x, values.lookup f.name = some x) :
    error? (s.recordValue type values) =
      (s.visitedFields type).findSome? fun f => (values.lookup f.name).bind error? := by
  have hfields : s.visitedFields type = r.fields.filter (·.isInit) := by
    rw [Schema.visitedFields, hr]
    exact if_pos (by rw [hcasing]; rfl)
  rw [Schema.recordValue, hr, Option.bind_some, hcasing, Option.map_some]
  dsimp only
  rw [recordFields_of_resolved hresolved, hfields]
  show error? (((r.fields.filter (·.isInit)).map (Field.stored casing)).mapM _ >>=
    fun properties => pure (Value.entity (assignAll properties))) = _
  rw [bind_pure_eq_map, error?_map, error?_mapM, List.findSome?_map]
  refine findSome?_congr fun f hf => ?_
  obtain ⟨hmem, hinit⟩ := List.mem_filter.mp hf
  obtain ⟨x, hx⟩ := hvalues f hmem hinit
  dsimp only [Function.comp]
  rw [show (f.stored casing).name = f.name from rfl, hx]
  exact error?_map x _

mutual

/-- **A conversion fails at the first place that has an error.** The induction is on the object; its
parts are converted in the order in which their places are listed. -/
theorem error?_intoValue :
    ∀ n : Native, (∀ p ∈ n.visits s, p.IsWhole s) →
      error? (intoValue s n) = (n.visits s).findSome? (Visit.fault? s)
  | .mapping form entries, h => by
    rw [intoValue, error?_map, error?_intoEntries entries fun p hp => h p (.tail _ hp)]
    rfl
  | .list items, h => by
    rw [intoValue, error?_map, error?_intoItems items fun p hp => h p (.tail _ hp)]
    rfl
  | .tuple items, h => by
    rw [intoValue, error?_map, error?_intoItems items fun p hp => h p (.tail _ hp)]
    rfl
  | .record type fields, h => by
    obtain ⟨hwhole, hplaces⟩ := List.forall_mem_cons.mp h
    rw [intoValue, Native.visits, Native.inner, List.findSome?_cons, findSome?_flatMap,
      Visit.fault?]
    cases hconvertible : (s.record? type).bind (·.casing?) with
    | none =>
      rw [s.recordValue_of_unsupported hconvertible]
      rfl
    | some casing =>
      obtain ⟨r, hr, hcasing⟩ := Option.bind_eq_some_iff.mp hconvertible
      obtain ⟨hresolved, hcomplete⟩ := hwhole r hr (by rw [hcasing]; rfl)
      rw [error?_recordValue hr hcasing hresolved]
      · refine findSome?_congr fun f hf => error?_intoFields fields f.name fun p hp => ?_
        exact hplaces p (List.mem_flatMap.mpr ⟨f, hf, hp⟩)
      · intro f hf hinit
        obtain ⟨n, hn⟩ := hcomplete f hf hinit
        exact ⟨_, (lookup_intoFields fields f.name).trans (congrArg _ hn)⟩
  | .null, _ | .boolean _, _ | .integer _, _ | .derivedInteger _, _ | .double _, _ | .string _, _
  | .derivedString _, _ | .binary _ _, _ | .dateTime _ _, _ | .key _, _ | .geoPoint _, _
  | .value _, _ | .converter _, _ | .enum _ _, _ | .entity _, _ | .keyless, _ | .recordType _, _
  | .other _, _ => (List.findSome?_singleton).symm

theorem error?_intoEntries :
    ∀ entries : List (Native × Native), (∀ p ∈ Native.entryVisits s entries, p.IsWhole s) →
      error? (intoEntries s entries) = (Native.entryVisits s entries).findSome? (Visit.fault? s)
  | [], _ => rfl
  | (name, item) :: rest, h => by
    have hplaces : Native.entryVisits s ((name, item) :: rest) =
        .name name :: (item.visits s ++ Native.entryVisits s rest) := rfl
    rw [hplaces] at h ⊢
    obtain ⟨-, h⟩ := List.forall_mem_cons.mp h
    rw [List.findSome?_cons, Visit.fault?]
    cases hname : name.string? with
    | none =>
      rw [intoEntries, hname]
      rfl
    | some text =>
      rw [intoEntries_cons hname, error?_both,
        error?_intoValue item fun p hp => h p (List.mem_append_left _ hp),
        error?_intoEntries rest fun p hp => h p (List.mem_append_right _ hp),
        ← List.findSome?_append]
      rfl

theorem error?_intoItems :
    ∀ items : List Native, (∀ p ∈ Native.itemVisits s items, p.IsWhole s) →
      error? (intoItems s items) = (Native.itemVisits s items).findSome? (Visit.fault? s)
  | [], _ => rfl
  | item :: rest, h => by
    have hplaces : Native.itemVisits s (item :: rest) =
        item.visits s ++ Native.itemVisits s rest := rfl
    rw [hplaces] at h ⊢
    rw [intoItems_cons, error?_both, List.findSome?_append,
      error?_intoValue item fun p hp => h p (List.mem_append_left _ hp),
      error?_intoItems rest fun p hp => h p (List.mem_append_right _ hp)]

theorem error?_intoFields :
    ∀ (fields : List (String × Native)) (name : String),
      (∀ p ∈ ((Native.fieldVisits s fields).lookup name).getD [], p.IsWhole s) →
      ((intoFields s fields).lookup name).bind error? =
        (((Native.fieldVisits s fields).lookup name).getD []).findSome? (Visit.fault? s)
  | [], _, _ => rfl
  | (m, n) :: rest, name, h => by
    rw [Native.fieldVisits, List.lookup_cons] at h
    rw [intoFields, Native.fieldVisits, List.lookup_cons, List.lookup_cons]
    cases hname : name == m with
    | true =>
      rw [hname] at h
      exact error?_intoValue n h
    | false =>
      rw [hname] at h
      exact error?_intoFields rest name h

end

/-- **What is converted, and how everything else fails.** An object whose instances are whole is
converted exactly if nothing is wrong at any place that the conversion comes to: every object is of
a kind that is converted, every name of a mapping is a string, every integer has 64 bits at most,
and every date-time with a zone is in a year from 1 to 9999 in UTC. Else the error is the one for
the first place where something is wrong. It is always a refused type, a refused value or an
overflow, and never a failure that the library reports of itself. -/
theorem intoValue_failsAtFirst {n : Native} (h : ∀ p ∈ n.visits s, p.IsWhole s) :
    FailsAtFirst (n.visits s) (Visit.Offends s) (intoValue s n) ∧
    ∀ e, intoValue s n = .error e → (∃ f, e = .type f) ∨ (∃ f, e = .value f) ∨ e = .overflow := by
  have hfirst := failsAtFirst Visit.fault?_eq_some_iff (error?_intoValue n h)
  refine ⟨hfirst, fun e he => ?_⟩
  obtain ⟨_, p, _, _, _, hp⟩ := (hfirst.fails e).mp he
  cases hp with
  | kind | name => exact .inl ⟨_, rfl⟩
  | integer => exact .inr (.inl ⟨_, rfl⟩)
  | dateTime => exact .inr (.inr rfl)

/-- A red link without another one behind it. -/
def redLink : Native :=
  .record "Chain" [("colour", .enum "Colour" "RED"), ("rest", .null)]

/-- A list of a red link and a mapping with an integer of more than 64 bits, a name that is no
string, and an object that is not converted. -/
def mixedList : Native :=
  .list [redLink,
    .mapping .plain [(.string "n", .integer 9223372036854775808), (.integer 1, .other "set")]]

/-- The list fails for its integer. -/
theorem intoValue_failsAtFirst_mixed :
    intoValue chains mixedList = .error (.value (.integerRange 9223372036854775808)) := by
  have hwhole : (Visit.object redLink).IsWhole chains := by
    intro r hr _
    obtain rfl : chain = r := Option.some.inj hr
    refine ⟨by decide, fun f hf _ => ?_⟩
    rcases List.mem_pair.mp hf with rfl | rfl
    · exact ⟨_, rfl⟩
    · exact ⟨_, rfl⟩
  have hplaces : mixedList.visits chains =
      [.object mixedList, .object redLink, .object (.enum "Colour" "RED"), .object .null,
        .object (.mapping .plain [(.string "n", .integer 9223372036854775808),
          (.integer 1, .other "set")]), .name (.string "n")] ++
      .object (.integer 9223372036854775808) ::
        [.name (.integer 1), .object (.other "set")] := rfl
  have hall : ∀ p ∈ mixedList.visits chains, p.IsWhole chains := by
    rw [hplaces]
    simp only [List.forall_mem_append, List.forall_mem_cons]
    exact ⟨⟨trivial, hwhole, trivial, trivial, trivial, trivial, nofun⟩,
      trivial, trivial, trivial, nofun⟩
  refine ((intoValue_failsAtFirst hall).1.fails _).mpr
    ⟨_, .object (.integer 9223372036854775808), _, hplaces, ?_, ?_⟩
  · simp only [← Visit.fault?_eq_some_iff, List.forall_mem_cons]
    exact ⟨nofun, nofun, nofun, nofun, nofun, nofun, nofun⟩
  · exact .integer rfl (.inr (by decide))

end EntityStore
