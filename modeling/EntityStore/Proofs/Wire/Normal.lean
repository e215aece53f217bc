import EntityStore.Proofs.Wire.Flags
import EntityStore.Proofs.Wire.KeyCodec

/-!
# Messages of other writers

Messages that this library did not write may say more than it keeps, and may say it in other ways.
Reading such a message and writing it again gives its normal form, and nothing else of it changes.

* `Wire.Content.IsReadable` — what a node of a message has to hold to be read;
* `Wire.Value.normal` — the message without all that is not kept;
* `DateTime.exists_decode`, `Wire.Key.exists_decode_encode` — the parts that can be refused;
* `Value.hasWrapper` — whether a value holds a wrapper of an optional value;
* `Wire.Value.Settles`, `Wire.Value.exists_settles` — a value that goes with a message in both
  directions;
* `Wire.Value.read_write_normal` — the messages that are read, and what is written again.
-/

namespace EntityStore

/-! ### Messages that are read -/

namespace Wire

/-- What a node holds itself can be read: a variant is set, a key has a path and a kind at every
step of it, and a timestamp lies in the calendar. -/
def Content.IsReadable : Content → Prop
  | .unset => False
  | .key k => k.path ≠ [] ∧ ∀ e ∈ k.path, e.kind ≠ ""
  | .timestamp seconds nanos =>
    (-62135596800 ≤ seconds.toInt ∧ seconds.toInt ≤ 253402300799) ∧
      0 ≤ nanos.toInt ∧ nanos.toInt ≤ 999999999
  | _ => True

/-! ### Normal forms -/

/-- The key in the partition of a project, with the namespace that it has and no database. -/
def Key.within (project : String) (k : Key) : Key :=
  ⟨some ⟨project, "", (k.partition.map Partition.namespaceId).getD ""⟩, k.path⟩

mutual

/-- The value as a project writes it. It has no flag and no meaning, at any depth. -/
def Value.normal (project : String) : Value → Value
  | .mk content _ _ => .mk (content.normal project) 0 false

/-- The content as a project writes it. Null has one code, timestamps have whole microseconds, keys
lie in the project and in no database, and records have no key of their own. -/
def Content.normal (project : String) : Content → Content
  | .null _ => .null 0
  | .timestamp seconds nanos => .timestamp seconds (.ofInt (nanos.toInt / 1000 * 1000))
  | .key k => .key (k.within project)
  | .entity _ properties => .entity none (normalFields project properties)
  | .array items => .array (normalItems project items)
  | .unset => .unset
  | .boolean b => .boolean b
  | .integer n => .integer n
  | .double d => .double d
  | .string s => .string s
  | .blob b => .blob b
  | .geoPoint p => .geoPoint p

/-- Properties as a project writes them. -/
def normalFields (project : String) : List (String × Value) → List (String × Value)
  | [] => []
  | (name, w) :: rest => (name, w.normal project) :: normalFields project rest

/-- Items as a project writes them. -/
def normalItems (project : String) : List Value → List Value
  | [] => []
  | w :: rest => w.normal project :: normalItems project rest

end

end Wire

/-! ### Timestamps -/

namespace DateTime

/-- Every timestamp within the calendar is read, and its nanoseconds are rounded down to
microseconds. -/
theorem exists_decode {seconds nanos : Int}
    (hseconds : -62135596800 ≤ seconds ∧ seconds ≤ 253402300799)
    (hnanos : 0 ≤ nanos ∧ nanos ≤ 999999999) :
    ∃ t, DateTime.decode seconds nanos = .ok t ∧ t.seconds = seconds ∧
      (t.time.microsecond : Int) = nanos / 1000 := by
  obtain ⟨t, ht, hsame, hmicros⟩ :=
    exists_ofSeconds? hseconds.1 hseconds.2 ⟨(nanos / 1000).toNat, micros_lt hnanos⟩
  have hrange :
      ¬ (decide (seconds < -62135596800) || decide (253402300799 < seconds)) = true := by
    rw [Bool.or_eq_true, decide_eq_true_eq, decide_eq_true_eq]
    omega
  refine ⟨t, ?_, hsame, ?_⟩
  · unfold DateTime.decode
    rw [if_neg hrange, dif_pos hnanos, ht]
  · have hmicrosecond : t.time.microsecond = (nanos / 1000).toNat := congrArg Fin.val hmicros
    omega

/-- No other timestamp is read. -/
theorem range_of_decode {seconds nanos : Int} {t : DateTime}
    (h : DateTime.decode seconds nanos = .ok t) :
    (-62135596800 ≤ seconds ∧ seconds ≤ 253402300799) ∧ 0 ≤ nanos ∧ nanos ≤ 999999999 := by
  unfold DateTime.decode at h
  split at h
  · cases h
  rename_i hrange
  split at h
  · rename_i hnanos
    rw [Bool.or_eq_true, decide_eq_true_eq, decide_eq_true_eq] at hrange
    exact ⟨by omega, hnanos⟩
  · cases h

end DateTime

/-! ### Keys -/

namespace Wire.Key

/-- The project and the database of a key are not read. -/
theorem decode_within (project : String) (k : Key) : (k.within project).decode = k.decode := by
  have hns : (k.within project).namespace? = k.namespace? := by
    rw [namespace?, namespace?, within]
    cases k.partition <;> rfl
  rw [decode, decode, hns]
  rfl

/-- A key with a path of kinds is read, and written again within the project. -/
theorem exists_decode_encode (project : String) {k : Key}
    (h : k.path ≠ [] ∧ ∀ e ∈ k.path, e.kind ≠ "") :
    ∃ key, k.decode = .ok key ∧ key.encode project = k.within project := by
  obtain ⟨key, hread, hwritten⟩ := encode_decode (m := k.within project) rfl h.1 h.2
  rw [decode_within] at hread
  exact ⟨key, hread, hwritten⟩

theorem kinds_of_decode {k : Key} {key : EntityStore.Key} (h : k.decode = .ok key) :
    k.path ≠ [] ∧ ∀ e ∈ k.path, e.kind ≠ "" := by
  obtain ⟨hpath, hkindless⟩ := not_or.mp ((decode_eq_error_iff k).2.mp ⟨key, h⟩)
  exact ⟨hpath, fun e he hkind => hkindless ⟨e, he, hkind⟩⟩

end Wire.Key

/-! ### Wrappers -/

namespace Value

mutual

/-- Whether a wrapper of an optional value that is present occurs, at any depth. -/
def hasWrapper : Value → Bool
  | wrapped _ => true
  | entity fields => hasWrapperFields fields
  | array items => hasWrapperItems items
  | _ => false

/-- Whether a wrapper occurs in properties. -/
def hasWrapperFields : List (String × Value) → Bool
  | [] => false
  | (_, v) :: rest => hasWrapper v || hasWrapperFields rest

/-- Whether a wrapper occurs in items. -/
def hasWrapperItems : List Value → Bool
  | [] => false
  | v :: rest => hasWrapper v || hasWrapperItems rest

end

end Value

/-! ### Both directions -/

namespace Wire

variable (project : String)

/-- The message is read as the value, the value is written as the normal form of the message, and
that is read as the value again. -/
structure Value.Settles (w : Value) (v : EntityStore.Value) : Prop where
  read : w.decode = .ok v
  written : v.encode project false = .ok (w.normal project)
  reread : (w.normal project).decode = .ok v
  unwrapped : v.hasWrapper = false

/-- The same for properties. -/
structure FieldsSettle (ps : List (String × Value)) (fields : List (String × EntityStore.Value)) :
    Prop where
  read : decodeFields ps = .ok fields
  written : EntityStore.Value.encodeFields project false fields = .ok (normalFields project ps)
  reread : decodeFields (normalFields project ps) = .ok fields
  unwrapped : EntityStore.Value.hasWrapperFields fields = false

/-- The same for items. -/
structure ItemsSettle (ws : List Value) (items : List EntityStore.Value) : Prop where
  read : decodeItems ws = .ok items
  written : EntityStore.Value.encodeItems project false items = .ok (normalItems project ws)
  reread : decodeItems (normalItems project ws) = .ok items
  unwrapped : EntityStore.Value.hasWrapperItems items = false

variable {project}

theorem FieldsSettle.cons {name : String} {w : Value} {v : EntityStore.Value}
    {ps : List (String × Value)} {fields : List (String × EntityStore.Value)}
    (h : w.Settles project v) (hrest : FieldsSettle project ps fields) :
    FieldsSettle project ((name, w) :: ps) ((name, v) :: fields) where
  read := by rw [decodeFields, h.read, hrest.read]; rfl
  written := by rw [EntityStore.Value.encodeFields, h.written, hrest.written]; rfl
  reread := by rw [normalFields, decodeFields, h.reread, hrest.reread]; rfl
  unwrapped := by rw [EntityStore.Value.hasWrapperFields, h.unwrapped, hrest.unwrapped]; rfl

theorem ItemsSettle.cons {w : Value} {v : EntityStore.Value} {ws : List Value}
    {items : List EntityStore.Value} (h : w.Settles project v)
    (hrest : ItemsSettle project ws items) : ItemsSettle project (w :: ws) (v :: items) where
  read := by rw [decodeItems, h.read, hrest.read]; rfl
  written := by rw [EntityStore.Value.encodeItems, h.written, hrest.written]; rfl
  reread := by rw [normalItems, decodeItems, h.reread, hrest.reread]; rfl
  unwrapped := by rw [EntityStore.Value.hasWrapperItems, h.unwrapped, hrest.unwrapped]; rfl

/-- A timestamp within the calendar is written again as the date-time that it is read as. -/
theorem Value.settles_timestamp {seconds : Int64} {nanos meaning : Int32} {excluded : Bool}
    (h : (Content.timestamp seconds nanos).IsReadable) :
    ∃ v, (mk (.timestamp seconds nanos) meaning excluded).Settles project v := by
  obtain ⟨t, hread, hseconds, hmicros⟩ := DateTime.exists_decode h.1 h.2
  have hnormal : t.encode = .timestamp seconds (.ofInt (nanos.toInt / 1000 * 1000)) := by
    rw [DateTime.encode, hseconds, Int64.ofInt_toInt, Int.natCast_mul, hmicros]
    rfl
  refine ⟨.timestamp t, ?_, ?_, ?_, rfl⟩
  · show (DateTime.decode seconds.toInt nanos.toInt).map EntityStore.Value.timestamp = _
    rw [hread]
    rfl
  · show Except.ok (Value.plain t.encode false) = _
    rw [hnormal]
    rfl
  · show (Content.timestamp seconds (.ofInt (nanos.toInt / 1000 * 1000))).decode = _
    rw [← hnormal]
    exact t.decode_encode

theorem Value.settles_key {k : Key} {meaning : Int32} {excluded : Bool}
    (h : (Content.key k).IsReadable) :
    ∃ v, (mk (.key k) meaning excluded).Settles project v := by
  obtain ⟨key, hread, hwritten⟩ := Key.exists_decode_encode project h
  refine ⟨.key key, ?_, ?_, ?_, rfl⟩
  · show k.decode.map EntityStore.Value.key = _
    rw [hread]
    rfl
  · show Except.ok (Value.plain (.key (key.encode project)) false) = _
    rw [hwritten]
    rfl
  · show (k.within project).decode.map EntityStore.Value.key = _
    rw [Key.decode_within, hread]
    rfl

mutual

/-- **Every message with readable nodes goes with a value.** The induction is on the message. -/
theorem Value.exists_settles :
    ∀ w : Value, (∀ node ∈ w.nodes, node.content.IsReadable) → ∃ v, w.Settles project v
  | .mk .unset meaning excluded, h =>
    (h (.mk .unset meaning excluded) List.mem_cons_self).elim
  | .mk (.timestamp seconds nanos) meaning excluded, h =>
    Value.settles_timestamp (h (.mk (.timestamp seconds nanos) meaning excluded) List.mem_cons_self)
  | .mk (.key k) meaning excluded, h =>
    Value.settles_key (h (.mk (.key k) meaning excluded) List.mem_cons_self)
  | .mk (.entity _ properties) _ _, h => by
    obtain ⟨fields, hfields⟩ := exists_fieldsSettle properties fun node hnode =>
      h node (List.mem_cons_of_mem _ hnode)
    refine ⟨.entity fields, ?_, ?_, ?_, hfields.unwrapped⟩
    · show (decodeFields properties).map EntityStore.Value.entity = _
      rw [hfields.read]
      rfl
    · rw [EntityStore.Value.encode, hfields.written]
      rfl
    · show (decodeFields (normalFields project properties)).map EntityStore.Value.entity = _
      rw [hfields.reread]
      rfl
  | .mk (.array ws) _ _, h => by
    obtain ⟨items, hitems⟩ := exists_itemsSettle ws fun node hnode =>
      h node (List.mem_cons_of_mem _ hnode)
    refine ⟨.array items, ?_, ?_, ?_, hitems.unwrapped⟩
    · show (decodeItems ws).map EntityStore.Value.array = _
      rw [hitems.read]
      rfl
    · rw [EntityStore.Value.encode, hitems.written]
      rfl
    · show (decodeItems (normalItems project ws)).map EntityStore.Value.array = _
      rw [hitems.reread]
      rfl
  | .mk (.null _) _ _, _ => ⟨.null, rfl, rfl, rfl, rfl⟩
  | .mk (.boolean b) _ _, _ => ⟨.boolean b, rfl, rfl, rfl, rfl⟩
  | .mk (.integer n) _ _, _ => ⟨.integer n, rfl, rfl, rfl, rfl⟩
  | .mk (.double d) _ _, _ => ⟨.double d, rfl, rfl, rfl, rfl⟩
  | .mk (.string s) _ _, _ => ⟨.string s, rfl, rfl, rfl, rfl⟩
  | .mk (.blob b) _ _, _ => ⟨.blob b, rfl, rfl, rfl, rfl⟩
  | .mk (.geoPoint p) _ _, _ => ⟨.geoPoint p, rfl, rfl, rfl, rfl⟩

theorem exists_fieldsSettle :
    ∀ ps : List (String × Value), (∀ node ∈ fieldNodes ps, node.content.IsReadable) →
      ∃ fields, FieldsSettle project ps fields
  | [], _ => ⟨[], rfl, rfl, rfl, rfl⟩
  | (name, w) :: rest, h => by
    obtain ⟨v, hv⟩ := Value.exists_settles w fun node hnode =>
      h node (List.mem_append_left _ hnode)
    obtain ⟨fields, hfields⟩ := exists_fieldsSettle rest fun node hnode =>
      h node (List.mem_append_right _ hnode)
    exact ⟨(name, v) :: fields, hfields.cons hv⟩

theorem exists_itemsSettle :
    ∀ ws : List Value, (∀ node ∈ itemNodes ws, node.content.IsReadable) →
      ∃ items, ItemsSettle project ws items
  | [], _ => ⟨[], rfl, rfl, rfl, rfl⟩
  | w :: rest, h => by
    obtain ⟨v, hv⟩ := Value.exists_settles w fun node hnode =>
      h node (List.mem_append_left _ hnode)
    obtain ⟨items, hitems⟩ := exists_itemsSettle rest fun node hnode =>
      h node (List.mem_append_right _ hnode)
    exact ⟨v :: items, hitems.cons hv⟩

end

/-! ### What is refused -/

/-- Properties are read one by one. -/
theorem decodeFields_cons (name : String) (w : Value) (rest : List (String × Value)) :
    decodeFields ((name, w) :: rest) =
      w.decode.bind fun v => (decodeFields rest).map ((name, v) :: ·) := by
  rw [decodeFields]
  cases w.decode <;> rfl

/-- Items are read one by one. -/
theorem decodeItems_cons (w : Value) (rest : List Value) :
    decodeItems (w :: rest) = w.decode.bind fun v => (decodeItems rest).map (v :: ·) := by
  rw [decodeItems]
  cases w.decode <;> rfl

mutual

/-- **All nodes of a message that is read are readable.** -/
theorem Value.readable_of_decode :
    ∀ (w : Value) (v : EntityStore.Value), w.decode = .ok v →
      ∀ node ∈ w.nodes, node.content.IsReadable
  | .mk content _ _, v, hv => by
    intro node hnode
    rcases List.mem_cons.mp hnode with rfl | hinner
    · exact (Content.readable_of_decode content v hv).1
    · exact (Content.readable_of_decode content v hv).2 node hinner

theorem Content.readable_of_decode :
    ∀ (content : Content) (v : EntityStore.Value), content.decode = .ok v →
      content.IsReadable ∧ ∀ node ∈ content.nodes, node.content.IsReadable
  | .unset, _, hv => nomatch hv
  | .timestamp _ _, _, hv => by
    obtain ⟨t, ht, -⟩ := map_eq_ok hv
    exact ⟨DateTime.range_of_decode ht, nofun⟩
  | .key _, _, hv => by
    obtain ⟨key, hkey, -⟩ := map_eq_ok hv
    exact ⟨Key.kinds_of_decode hkey, nofun⟩
  | .entity _ properties, _, hv => by
    obtain ⟨fields, hfields, -⟩ := map_eq_ok hv
    exact ⟨trivial, readable_of_decodeFields properties fields hfields⟩
  | .array ws, _, hv => by
    obtain ⟨items, hitems, -⟩ := map_eq_ok hv
    exact ⟨trivial, readable_of_decodeItems ws items hitems⟩
  | .null _, _, _ | .boolean _, _, _ | .integer _, _, _ | .double _, _, _ | .string _, _, _
  | .blob _, _, _ | .geoPoint _, _, _ => ⟨trivial, nofun⟩

theorem readable_of_decodeFields :
    ∀ ps fields, decodeFields ps = .ok fields →
      ∀ node ∈ fieldNodes ps, node.content.IsReadable
  | [], _, _ => nofun
  | (name, w) :: rest, _, h => by
    rw [decodeFields_cons] at h
    obtain ⟨v, fields, hv, hfields, -⟩ := both_eq_ok h
    intro node hnode
    rcases List.mem_append.mp hnode with hhere | hrest
    · exact Value.readable_of_decode w v hv node hhere
    · exact readable_of_decodeFields rest fields hfields node hrest

theorem readable_of_decodeItems :
    ∀ ws items, decodeItems ws = .ok items →
      ∀ node ∈ itemNodes ws, node.content.IsReadable
  | [], _, _ => nofun
  | w :: rest, _, h => by
    rw [decodeItems_cons] at h
    obtain ⟨v, items, hv, hitems, -⟩ := both_eq_ok h
    intro node hnode
    rcases List.mem_append.mp hnode with hhere | hrest
    · exact Value.readable_of_decode w v hv node hhere
    · exact readable_of_decodeItems rest items hitems node hrest

end

/-! ### Reading and writing again -/

/-- **Messages are read up to their normal form.** A message is read exactly if all of its nodes are
readable, at any depth. The value that is read holds no wrappers, and is written as the normal form
of the message. To read and write a second time changes nothing: the normal form is read as the same
value, and so it is written as it is. -/
theorem Value.read_write_normal (project : String) (w : Value) :
    ((∃ v, w.decode = .ok v) ↔ ∀ node ∈ w.nodes, node.content.IsReadable) ∧
    ∀ v, w.decode = .ok v → v.hasWrapper = false ∧
      v.encode project false = .ok (w.normal project) ∧
      (w.normal project).decode = .ok v := by
  constructor
  · constructor
    · rintro ⟨v, hv⟩
      exact w.readable_of_decode v hv
    · intro hreadable
      obtain ⟨v, hv⟩ : ∃ v, w.Settles project v := w.exists_settles hreadable
      exact ⟨v, hv.read⟩
  -- what is read is the value that goes with the message, because reading has one result
  · intro v hv
    obtain ⟨v', hsettles⟩ : ∃ v', w.Settles project v' :=
      w.exists_settles (w.readable_of_decode v hv)
    obtain rfl := Except.ok.inj (hv.symm.trans hsettles.read)
    exact ⟨hsettles.unwrapped, hsettles.written, hsettles.reread⟩

/-- A message of another writer: a flagged record with a key of its own, and in it a timestamp with
single nanoseconds, a null of another code and a key of another project. -/
def foreignMessage : Value :=
  .mk (.entity (some ⟨none, []⟩)
    [("at", .mk (.timestamp (-1) 1999) 15 true),
      ("of", .mk (.array [.mk (.null 7) 0 true,
        .mk (.key ⟨some ⟨"other", "db", "n"⟩, [⟨"Guest", some (.number 0)⟩]⟩) 0 false]) 0 false)])
    3 true

/-- It is read, and written again without all that is not kept. -/
theorem read_write_normal_foreign :
    ∃ v, foreignMessage.decode = .ok v ∧ v.encode "p" false = .ok (.mk (.entity none
      [("at", .mk (.timestamp (-1) 1000) 0 false),
        ("of", .mk (.array [.mk (.null 0) 0 false,
          .mk (.key ⟨some ⟨"p", "", "n"⟩, [⟨"Guest", some (.number 0)⟩]⟩) 0 false]) 0 false)])
      0 false) := by
  obtain ⟨hread, hwritten⟩ := Value.read_write_normal "p" foreignMessage
  obtain ⟨v, hv⟩ := hread.mpr (by
    simp [foreignMessage, Value.nodes, Content.nodes, fieldNodes, itemNodes, Value.content,
      Content.IsReadable])
  exact ⟨v, hv, (hwritten v hv).2.1⟩

end Wire

end EntityStore
