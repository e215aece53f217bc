import EntityStore.Proofs.Convert.Agreement
import EntityStore.Proofs.Schema
import EntityStore.Proofs.Wire.Value

/-!
# Values are read alike before and after they are stored

The message of a value keeps no wrappers of optional values and no marks of keys. A definite target
reads the same object from what is left: where it takes a wrapped value, it is optional, and it
takes the bare value too.

* `follows_readLeaf`, `follows_readDefined`, `follows_readEntity`, `follows_readArray` — the forms;
* `reader_stored` — the reader of a stored value follows that of the value;
* `fromValue_decode_encode` — a value that is written and read back gives an equal object.
-/

namespace EntityStore

variable {s : Schema} {names : List String}

/-! ### Forms -/

/-- The arguments of a record are read from its fields, which are definite. -/
theorem follows_readRecord {r : RecordType}
    (hfields : ∀ f ∈ r.fields, f.isInit = true → f.type.DefiniteIn names) (casing : Casing)
    {reads reads' : List (String × Reader)} (h : Entrywise (Reader.Follows s names) reads reads') :
    Outcome.Follows (Native.Agrees s) (s.readRecord r casing reads)
      (s.readRecord r casing reads') := by
  unfold Schema.readRecord Schema.recordFields
  split
  · refine (follows_readFields ?_ h).bind fun xs ys hxs => follows_instantiate r.name hxs
    intro field hfield
    obtain ⟨f, hf, rfl⟩ := List.mem_map.mp hfield
    obtain ⟨hmem, hinit⟩ := List.mem_filter.mp hf
    exact hfields f hmem hinit
  · exact .error _ _

/-- A string stands for the same member of an enum after it is stored. An entity is read as a
record by the readers of its properties. -/
theorem follows_readDefined (hs : s.DefinesIn names) {name : String} (hname : name ∈ names)
    (v : Value) {reads reads' : List (String × Reader)}
    (h : Entrywise (Reader.Follows s names) reads reads') :
    Outcome.Follows (Native.Agrees s) (readDefined s v name reads)
      (readDefined s v.erase.unmarked name reads') := by
  unfold readDefined
  cases hfound : s.lookup name with
  | none => exact .error _ _
  | some d =>
    cases d with
    | enum e =>
      cases v with
      | string wire =>
        show Outcome.Follows _ (Schema.readMember e wire) (Schema.readMember e wire)
        unfold Schema.readMember
        cases e.member? wire with
        | none => exact .error _ _
        | some member =>
          refine .ok (Native.agrees_of_equal ?_)
          simp [Native.equal, Native.equalScalars, Native.integer?, Native.string?]
      | _ => exact .error _ _
    | record r =>
      have hr : s.record? name = some r := by rw [Schema.record?, hfound]
      dsimp only
      cases r.casing? with
      | none => exact .error _ _
      | some casing =>
        cases v with
        | entity properties => exact follows_readRecord (hs name hname r hr) casing h
        | _ => exact .error _ _

/-- An option is neither a member of an enum nor a record. -/
theorem readDefined_option (name : String) (reads : List (String × Reader)) {v : Value}
    (hv : v.variant? = some .option) : ∃ e, readDefined s v name reads = .error e := by
  unfold readDefined
  cases s.lookup name with
  | none => exact ⟨_, rfl⟩
  | some d =>
    cases d with
    | enum e =>
      cases v with
      | null | wrapped _ => exact ⟨_, rfl⟩
      | _ => cases hv
    | record r =>
      dsimp only
      cases r.casing? with
      | none => exact ⟨_, rfl⟩
      | some casing =>
        cases v with
        | null | wrapped _ => exact ⟨_, rfl⟩
        | _ => cases hv

/-- A definite form is read from no option. -/
theorem readLeaf_option {f : Form} (hf : Target.DefiniteFormIn names f) {v : Value}
    (hv : v.variant? = some .option) : ∃ e, readLeaf s v f = .error e := by
  cases f with
  | value | any | label | variant _ | union _ | unsupported _ => exact hf.elim
  | type name => exact readDefined_option name [] hv
  | _ =>
    cases v with
    | null | wrapped _ => exact ⟨_, rfl⟩
    | _ => cases hv

/-- A form without parts is read alike from a value and from what is stored of it: only the marks
of a key are lost. -/
theorem follows_readLeaf (hs : s.DefinesIn names) {f : Form}
    (hf : Target.DefiniteFormIn names f) (v : Value) :
    Outcome.Follows (Native.Agrees s) (readLeaf s v f) (readLeaf s v.erase.unmarked f) := by
  cases f with
  | value | any | label | variant _ | union _ | unsupported _ => exact hf.elim
  | list _ | tuple _ | fixed _ | mapping _ => exact .error _ _
  | type name => exact follows_readDefined hs hf v .nil
  | key =>
    cases v with
    | key k =>
      refine .ok ⟨congrArg Native.key k.unmarked_unmarked, fun _ => ?_⟩
      simp [Native.equal, Native.equalScalars, Native.integer?, Native.string?, Key.same_iff]
    | _ => exact .error _ _
  | string | integer | double | boolean | binary | dateTime | geoPoint =>
    cases v <;> first
      | exact .error _ _
      | exact .ok (Native.agrees_of_equal (by
          simp [Native.equal, Native.equalScalars, Native.integer?, Native.string?]))

theorem follows_readEntity (hs : s.DefinesIn names) {f : Form}
    (hf : Target.DefiniteFormIn names f) {properties : List (String × Value)}
    (hnames : (properties.map Prod.fst).Nodup)
    (h : Entrywise (Reader.Follows s names) (readers s properties)
      (readers s (Value.unmarkedFields (Value.eraseFields properties)))) :
    Outcome.Follows (Native.Agrees s)
      (readEntity s (.entity properties) (readers s properties) f)
      (readEntity s (Value.entity properties).erase.unmarked
        (readers s (Value.unmarkedFields (Value.eraseFields properties))) f) := by
  cases f with
  | mapping t =>
    refine (follows_readProperties h hf).map fun xs ys hxs => ?_
    refine Native.agrees_ofProperties ?_ hxs.2
    rw [hxs.1, readers_map, List.map_map]
    exact hnames
  | type name => exact follows_readDefined hs hf (.entity properties) h
  | _ => exact follows_readLeaf hs hf (.entity properties)

theorem follows_readArray (hs : s.DefinesIn names) {f : Form}
    (hf : Target.DefiniteFormIn names f) {items : List Value}
    (h : List.Forall₂ (Reader.Follows s names) (itemReaders s items)
      (itemReaders s (Value.unmarkedItems (Value.eraseItems items)))) :
    Outcome.Follows (Native.Agrees s) (readArray s (.array items) (itemReaders s items) f)
      (readArray s (Value.array items).erase.unmarked
        (itemReaders s (Value.unmarkedItems (Value.eraseItems items))) f) := by
  cases f with
  | list t => exact (follows_readAll h hf).map fun _ _ => Native.agrees_list
  | tuple t => exact (follows_readAll h hf).map fun _ _ => Native.agrees_tuple
  | fixed ts =>
    unfold readArray
    dsimp only
    rw [← h.length_eq]
    split
    · exact (follows_readEach h hf).map fun _ _ => Native.agrees_tuple
    · exact .error _ _
  | _ => exact follows_readLeaf hs hf (.array items)

/-! ### Stored values -/

/-- A value that is no option keeps its variant when it is stored. -/
theorem Value.variant?_stored {v : Value} (h : v.variant? ≠ some .option) :
    v.erase.unmarked.variant? = v.variant? := by
  cases v with
  | null | wrapped _ => exact absurd rfl h
  | _ => rfl

/-- If a definite form is read from a value, the value is no option. -/
theorem variant?_of_reader {f : Form} (hf : Target.DefiniteFormIn names f) {v : Value} {x : Native}
    (hx : reader s v (.plain f) = .ok x) : v.variant? ≠ some .option := by
  intro hv
  obtain ⟨e, he⟩ := readLeaf_option (s := s) hf hv
  have hread : reader s v (.plain f) = readLeaf s v f := by
    cases v with
    | null | wrapped _ => rfl
    | _ => cases hv
  rw [hread, he] at hx
  cases hx

mutual

/-- **The reader of a stored value follows that of the value.** The induction is on the value. A
wrapper is taken by optional targets alone, and what it holds is no option then, so that the bare
value is taken by the same target. -/
theorem reader_stored (hs : s.DefinesIn names) :
    ∀ v : Value, v.WellFormed → ∀ t : Target, t.DefiniteIn names →
      Outcome.Follows (Native.Agrees s) (reader s v t) (reader s v.erase.unmarked t)
  | .null, _, .plain f, ht => follows_readLeaf hs ht .null
  | .null, _, .optional f, ht => by
    cases f with
    | union _ => exact ht.elim
    | _ =>
      refine .ok (Native.agrees_of_equal ?_)
      simp [Native.equal, Native.equalScalars, Native.integer?, Native.string?]
  | .wrapped v, _, .plain f, ht => by
    obtain ⟨e, he⟩ := readLeaf_option (s := s) ht (v := .wrapped v) rfl
    show Outcome.Follows _ (readLeaf s (.wrapped v) f) _
    rw [he]
    exact .error _ _
  | .wrapped v, h, .optional f, ht => by
    have hinner : Outcome.Follows (Native.Agrees s) (reader s v (.plain f))
        (reader s v.erase.unmarked (.optional f)) := by
      intro x hx
      have hv : v.variant? ≠ some .option := variant?_of_reader ht hx
      have hstored : v.erase.unmarked.variant? ≠ some .option := by
        rw [Value.variant?_stored hv]
        exact hv
      rw [reader_optional hstored]
      exact reader_stored hs v h (.plain f) ht x hx
    cases f with
    | union _ => exact ht.elim
    | _ => exact hinner
  | .entity properties, h, _, ht =>
    follows_readEntity hs ht.form h.1 (readers_stored hs properties h.2)
  | .array items, h, _, ht => follows_readArray hs ht.form (itemReaders_stored hs items h)
  | .bare, _, _, ht | .boolean _, _, _, ht | .integer _, _, _, ht | .double _, _, _, ht
  | .timestamp _, _, _, ht | .key _, _, _, ht | .string _, _, _, ht | .blob _, _, _, ht
  | .geoPoint _, _, _, ht => follows_readLeaf hs ht.form _

theorem readers_stored (hs : s.DefinesIn names) :
    ∀ properties, Value.WellFormedFields properties →
      Entrywise (Reader.Follows s names) (readers s properties)
        (readers s (Value.unmarkedFields (Value.eraseFields properties)))
  | [], _ => .nil
  | (_, v) :: rest, h => .cons ⟨rfl, reader_stored hs v h.1⟩ (readers_stored hs rest h.2)

theorem itemReaders_stored (hs : s.DefinesIn names) :
    ∀ items, Value.WellFormedItems items →
      List.Forall₂ (Reader.Follows s names) (itemReaders s items)
        (itemReaders s (Value.unmarkedItems (Value.eraseItems items)))
  | [], _ => .nil
  | v :: rest, h => .cons (reader_stored hs v h.1) (itemReaders_stored hs rest h.2)

end

/-- **Storing a value does not change what it is read as.** What a definite target reads from a
value, it reads from the value that comes of its message: the two objects differ in the marks of
keys at most, which do not count in comparisons. -/
theorem fromValue_decode_encode {t : Target} (ht : t.IsDefinite s) {v : Value} (hv : v.WellFormed)
    {project : String} {excluded : Bool} {w : Wire.Value}
    (hw : v.encode project excluded = .ok w) {x : Native} (hx : fromValue s v t = .ok x) :
    ∃ r y, w.decode = .ok r ∧ fromValue s r t = .ok y ∧ y.unmarked = x.unmarked ∧
      (s.DefaultsSelfEqual → y.equal .bits x = true) := by
  obtain ⟨names, htarget, hs⟩ := ht
  obtain ⟨y, hy, hagrees⟩ := reader_stored hs v hv t htarget x hx
  refine ⟨v.erase.unmarked, y, v.decode_encode project excluded w hv hw, hy, hagrees.unmarked, ?_⟩
  intro hdefaults
  rw [Native.equal_of_unmarked_eq .bits hagrees.unmarked]
  exact hagrees.self hdefaults

/-- Visits of guests, each with the one before it. -/
def visitRecord : RecordType :=
  ⟨"Visit", some .camel,
    [⟨"guest", .optional .key, some "g", none, true⟩,
      ⟨"rooms", .plain (.list (.optional .integer)), some "r", none, true⟩,
      ⟨"last", .optional (.type "Visit"), some "l", some .null, true⟩],
    [.optional .key, .plain (.list (.optional .integer)), .optional (.type "Visit")]⟩

/-- The schema of visits. -/
def visits : Schema :=
  [("Visit", .record visitRecord)]

theorem eq_visitRecord {name : String} {r : RecordType} (h : visits.record? name = some r) :
    r = visitRecord := by
  have hmem := List.mem_singleton.mp (mem_of_lookup (Schema.lookup_of_record? h))
  exact Definition.record.inj (Prod.mk.inj hmem).2

theorem isDefinite_visit : Target.IsDefinite visits (.optional (.type "Visit")) := by
  refine ⟨["Visit"], List.mem_singleton_self "Visit", ?_⟩
  intro name _ r hr f hf _
  obtain rfl := eq_visitRecord hr
  simp only [visitRecord, List.mem_cons, List.not_mem_nil, or_false] at hf
  rcases hf with rfl | rfl | rfl
  · exact trivial
  · exact trivial
  · exact List.mem_singleton_self "Visit"

theorem defaultsSelfEqual_visits : visits.DefaultsSelfEqual := by
  intro name r hr f hf n hn
  obtain rfl := eq_visitRecord hr
  simp only [visitRecord, List.mem_cons, List.not_mem_nil, or_false] at hf
  rcases hf with rfl | rfl | rfl
  · cases hn
  · cases hn
  · obtain rfl := Option.some.inj hn
    simp [Native.equal, Native.equalScalars, Native.integer?, Native.string?]

/-- A visit with wrappers wherever something may be absent, below a guest whose key is new. -/
def visit : Value :=
  .wrapped (.entity [("g", .wrapped (.key bookingKey)),
    ("r", .array [.wrapped (.integer 7), .null])])

/-- The visit is read as the same object when it has been stored. -/
theorem fromValue_decode_encode_visit :
    ∃ w r y, visit.encode "p" true = .ok w ∧ w.decode = .ok r ∧
      fromValue visits r (.optional (.type "Visit")) = .ok y ∧
      y.equal .bits (.record "Visit" [("guest", .key bookingKey),
        ("rooms", .list [.integer 7, .null]), ("last", .null)]) = true := by
  have hkey : bookingKey.WellFormed := ⟨⟨by decide, by decide⟩, rfl, by decide⟩
  have hvisit : visit.WellFormed := ⟨by decide, hkey, ⟨trivial, trivial, trivial⟩, trivial⟩
  obtain ⟨w, hw⟩ := visit.encode_of_not_hasBare "p" true rfl
  have hread : fromValue visits visit (.optional (.type "Visit")) =
      .ok (.record "Visit" [("guest", .key bookingKey), ("rooms", .list [.integer 7, .null]),
        ("last", .null)]) := rfl
  obtain ⟨r, y, hr, hy, -, hequal⟩ := fromValue_decode_encode isDefinite_visit hvisit hw hread
  exact ⟨w, r, y, hw, hr, hy, hequal defaultsSelfEqual_visits⟩

end EntityStore
