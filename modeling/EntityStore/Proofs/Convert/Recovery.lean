import EntityStore.Proofs.Convert.Agreement
import EntityStore.Proofs.Convert.Members
import EntityStore.Proofs.Key.Construction

/-!
# Values are recovered from what is read

Reading a value loses nothing but the wrappers of optional values. For a target without records, the
object that is read becomes the value again, but for these wrappers, whatever the value was. The
object alone has to tell the variant: tuples and lists become arrays, and a member of an enum
becomes the text that it was read from, since several members may share a text but no member has
two.

* `Target.IsRecordless` — definite targets without records;
* `Reader.Recovers` — readers of a value that is recovered from what they give;
* `recovers_readAll`, `recovers_readEach`, `recovers_readProperties` — lists of readers;
* `recovers_readLeaf`, `recovers_readArray`, `recovers_readEntity` — the forms;
* `reader_recovers` — the reader of every value recovers it without its wrappers;
* `intoValue_fromValue` — what is read from a value becomes this value without its wrappers.
-/

namespace EntityStore

/-- All names stand for enums, the members of which have distinct names. Their wire names may be the
same. -/
def Schema.DefinesEnums (s : Schema) (names : List String) : Prop :=
  ∀ name ∈ names, ∃ e, s.enum? name = some e ∧ (e.members.map Prod.fst).Nodup

/-- The target says at every place what a value has to hold, and all of its defined types are
enums. -/
def Target.IsRecordless (s : Schema) (t : Target) : Prop :=
  ∃ names, t.DefiniteIn names ∧ s.DefinesEnums names

/-- Whatever the reader gives for a definite target becomes the value `v`. -/
def Reader.Recovers (s : Schema) (names : List String) (read : Reader) (v : Value) : Prop :=
  ∀ t, t.DefiniteIn names → ∀ n, read t = .ok n → intoValue s n = .ok v

variable {s : Schema} {names : List String}

/-! ### Lists of readers -/

theorem recovers_readAll {reads : List Reader} {vs : List Value}
    (h : List.Forall₂ (Reader.Recovers s names) reads vs) {t : Target} (ht : t.DefiniteIn names) :
    ∀ {items : List Native}, readAll reads t = .ok items → intoItems s items = .ok vs := by
  induction h with
  | nil =>
    intro items hitems
    obtain rfl := Except.ok.inj hitems
    rfl
  | @cons read v reads vs hread _ ih =>
    intro items hitems
    rw [readAll_cons] at hitems
    obtain ⟨n, rest, hn, hrest, rfl⟩ := both_eq_ok hitems
    rw [intoItems, hread t ht n hn, ih hrest]
    rfl

/-- Where each item is read as its own target, there must be a target for each. -/
theorem recovers_readEach {reads : List Reader} {vs : List Value}
    (h : List.Forall₂ (Reader.Recovers s names) reads vs) :
    ∀ {ts : List Target}, ts.length = reads.length → Target.DefiniteAllIn names ts →
      ∀ {items : List Native}, readEach reads ts = .ok items → intoItems s items = .ok vs := by
  induction h with
  | nil =>
    intro ts _ _ items hitems
    obtain rfl := Except.ok.inj hitems
    rfl
  | @cons read v reads vs hread _ ih =>
    intro ts hlength hts items hitems
    cases ts with
    | nil => cases hlength
    | cons t ts =>
      rw [readEach_cons] at hitems
      obtain ⟨n, rest, hn, hrest, rfl⟩ := both_eq_ok hitems
      have hrecovered := ih (Nat.succ.inj hlength) hts.2 hrest
      rw [intoItems, hread t hts.1 n hn, hrecovered]
      rfl

theorem recovers_readProperties {reads : List (String × Reader)} {vs : List (String × Value)}
    (h : Entrywise (Reader.Recovers s names) reads vs) {t : Target} (ht : t.DefiniteIn names) :
    ∀ {entries : List (String × Native)}, readProperties reads t = .ok entries →
      intoEntries s (entries.map fun e => (.string e.1, e.2)) = .ok vs := by
  induction h with
  | nil =>
    intro entries hentries
    obtain rfl := Except.ok.inj hentries
    rfl
  | @cons r v reads vs hread _ ih =>
    intro entries hentries
    obtain ⟨name, read⟩ := r
    obtain ⟨name', v⟩ := v
    obtain ⟨rfl, hread⟩ := hread
    rw [readProperties_cons] at hentries
    obtain ⟨n, rest, hn, hrest, rfl⟩ := both_eq_ok hentries
    have hrecovered := ih hrest
    rw [List.map_cons, intoEntries, hread t ht n hn, hrecovered]
    rfl

/-! ### Forms -/

/-- The number of a stored integer is in its range. -/
theorem intoValue_integer (i : Int64) : intoValue s (.integer i.toInt) = .ok (.integer i) := by
  show Value.ofInt i.toInt = _
  rw [Value.ofInt, if_pos (fitsInt64_toInt i), Int64.ofInt_toInt]

/-- A member that is read from a text is stored as this text, also where another member has the
same. -/
theorem recovers_readMember {name : String} {e : EnumType} (hs : s.WellFormed)
    (he : s.enum? name = some e) (hnames : (e.members.map Prod.fst).Nodup) {wire : String}
    {n : Native} (hn : Schema.readMember e wire = .ok n) : intoValue s n = .ok (.string wire) := by
  have hmember : wire ∈ e.members.map Prod.snd := by
    by_contra hmem
    rw [Schema.readMember, EnumType.member?_eq_none hmem] at hn
    cases hn
  obtain ⟨front, member, back, hsplit, hlast⟩ := EnumType.exists_last hmember
  rw [Schema.readMember, EnumType.member?_of_last hsplit hlast] at hn
  obtain rfl := Except.ok.inj hn
  -- this member need not be the one that was stored, but its text is the same
  rw [hs.of_enum? he]
  refine intoValue_enum he hnames ?_
  rw [hsplit]
  exact List.mem_append_right front List.mem_cons_self

theorem recovers_readDefined (hs : s.WellFormed) (henums : s.DefinesEnums names) {name : String}
    (hname : name ∈ names) {v : Value} {reads : List (String × Reader)} {n : Native}
    (hn : readDefined s v name reads = .ok n) : intoValue s n = .ok v.erase := by
  obtain ⟨e, he, hmembers⟩ := henums name hname
  rw [readDefined, Schema.lookup_of_enum? he] at hn
  cases v with
  | string wire => exact recovers_readMember hs he hmembers hn
  | _ => cases hn

/-- A form without parts is read from values of one variant, and an object of it becomes a value of
this variant again. -/
theorem recovers_readLeaf (hs : s.WellFormed) (henums : s.DefinesEnums names) {f : Form}
    (hf : Target.DefiniteFormIn names f) {v : Value} {n : Native} (hn : readLeaf s v f = .ok n) :
    intoValue s n = .ok v.erase := by
  cases f with
  | value | any | label | variant _ | union _ | unsupported _ => exact hf.elim
  | list _ | tuple _ | fixed _ | mapping _ => cases hn
  | type name => exact recovers_readDefined hs henums hf hn
  | integer =>
    cases v with
    | integer i =>
      obtain rfl := Except.ok.inj hn
      exact intoValue_integer i
    | _ => cases hn
  | string | double | boolean | binary | dateTime | key | geoPoint =>
    cases v <;> first
      | cases hn; done
      | (obtain rfl := Except.ok.inj hn; rfl)

theorem recovers_readArray (hs : s.WellFormed) (henums : s.DefinesEnums names) {f : Form}
    (hf : Target.DefiniteFormIn names f) {items : List Value}
    (h : List.Forall₂ (Reader.Recovers s names) (itemReaders s items) (Value.eraseItems items))
    {n : Native} (hn : readArray s (.array items) (itemReaders s items) f = .ok n) :
    intoValue s n = .ok (Value.array items).erase := by
  cases f with
  | list t =>
    obtain ⟨ns, hns, rfl⟩ := map_eq_ok hn
    rw [intoValue, recovers_readAll h hf hns]
    rfl
  | tuple t =>
    obtain ⟨ns, hns, rfl⟩ := map_eq_ok hn
    rw [intoValue, recovers_readAll h hf hns]
    rfl
  | fixed ts =>
    rw [readArray] at hn
    split at hn
    · rename_i hlength
      obtain ⟨ns, hns, rfl⟩ := map_eq_ok hn
      rw [intoValue, recovers_readEach h (beq_iff_eq.mp hlength) hf hns]
      rfl
    · cases hn
  | _ => exact recovers_readLeaf hs henums hf hn

theorem recovers_readEntity (hs : s.WellFormed) (henums : s.DefinesEnums names) {f : Form}
    (hf : Target.DefiniteFormIn names f) {properties : List (String × Value)}
    (h : Entrywise (Reader.Recovers s names) (readers s properties)
      (Value.eraseFields properties))
    {n : Native} (hn : readEntity s (.entity properties) (readers s properties) f = .ok n) :
    intoValue s n = .ok (Value.entity properties).erase := by
  cases f with
  | mapping t =>
    obtain ⟨entries, hentries, rfl⟩ := map_eq_ok hn
    rw [Native.ofProperties, intoValue, recovers_readProperties h hf hentries]
    rfl
  | type name => exact recovers_readDefined hs henums hf hn
  | _ => exact recovers_readLeaf hs henums hf hn

/-! ### Values -/

mutual

/-- **The reader of a value recovers it without its wrappers.** The induction is on the value. A
wrapper is taken away by an optional target, which then reads what is in it as its form. -/
theorem reader_recovers (hs : s.WellFormed) (henums : s.DefinesEnums names) :
    ∀ v : Value, Reader.Recovers s names (reader s v) v.erase
  | .null, .plain f, ht, n, hn => recovers_readLeaf hs henums ht hn
  | .null, .optional f, ht, n, hn => by
    cases f with
    | union _ => exact ht.elim
    | _ =>
      obtain rfl := Except.ok.inj hn
      rfl
  | .wrapped v, .plain f, ht, n, hn => recovers_readLeaf hs henums ht hn
  | .wrapped v, .optional f, ht, n, hn => by
    have hinner := reader_recovers hs henums v (.plain f) ht n
    cases f with
    | union _ => exact ht.elim
    | _ => exact hinner hn
  | .entity properties, t, ht, n, hn =>
    recovers_readEntity hs henums ht.form (readers_recover hs henums properties) hn
  | .array items, t, ht, n, hn =>
    recovers_readArray hs henums ht.form (itemReaders_recover hs henums items) hn
  | .bare, _, ht, _, hn | .boolean _, _, ht, _, hn | .integer _, _, ht, _, hn
  | .double _, _, ht, _, hn | .timestamp _, _, ht, _, hn | .key _, _, ht, _, hn
  | .string _, _, ht, _, hn | .blob _, _, ht, _, hn | .geoPoint _, _, ht, _, hn =>
    recovers_readLeaf hs henums ht.form hn

theorem readers_recover (hs : s.WellFormed) (henums : s.DefinesEnums names) :
    ∀ properties, Entrywise (Reader.Recovers s names) (readers s properties)
      (Value.eraseFields properties)
  | [] => .nil
  | (_, v) :: rest => .cons ⟨rfl, reader_recovers hs henums v⟩ (readers_recover hs henums rest)

theorem itemReaders_recover (hs : s.WellFormed) (henums : s.DefinesEnums names) :
    ∀ items, List.Forall₂ (Reader.Recovers s names) (itemReaders s items)
      (Value.eraseItems items)
  | [] => .nil
  | v :: rest => .cons (reader_recovers hs henums v) (itemReaders_recover hs henums rest)

end

/-- **Reading loses nothing but wrappers.** What a target without records reads from a value becomes
this value again, without the wrappers of optional values at any depth. -/
theorem intoValue_fromValue (hs : s.Built) {t : Target} (ht : t.IsRecordless s) {v : Value}
    {n : Native} (hn : fromValue s v t = .ok n) : intoValue s n = .ok v.erase := by
  obtain ⟨names, htarget, henums⟩ := ht
  exact reader_recovers hs.wellFormed henums v t htarget n hn

/-- Pairs of plans by customer, who may have none, and a number. -/
def planning : Target :=
  .plain (.fixed [.plain (.mapping (.optional (.type "Plan"))), .optional .integer])

theorem isRecordless_planning : planning.IsRecordless plans := by
  refine ⟨["Plan"], ⟨List.mem_singleton_self "Plan", trivial, trivial⟩, ?_⟩
  intro name hname
  obtain rfl := List.mem_singleton.mp hname
  exact ⟨planType, rfl, by decide⟩

/-- A stored pair with wrappers at two depths. -/
def planned : Value :=
  .array [.entity [("ann", .wrapped (.string "paid")), ("ben", .null)], .wrapped (.integer 3)]

/-- The plan of a team is read as that of a firm, and it becomes the same text again. -/
theorem intoValue_fromValue_planned :
    fromValue plans planned planning = .ok (.tuple
      [.ofProperties [("ann", .enum "Plan" "FIRM"), ("ben", .null)], .integer 3]) ∧
    intoValue plans (.tuple
      [.ofProperties [("ann", .enum "Plan" "FIRM"), ("ben", .null)], .integer 3]) =
      .ok (.array [.entity [("ann", .string "paid"), ("ben", .null)], .integer 3]) := by
  have hbuilt : plans.Built := .enum .empty defined_plans
  have hread : fromValue plans planned planning = .ok (.tuple
      [.ofProperties [("ann", .enum "Plan" "FIRM"), ("ben", .null)], .integer 3]) := rfl
  exact ⟨hread, intoValue_fromValue hbuilt isRecordless_planning hread⟩

end EntityStore
