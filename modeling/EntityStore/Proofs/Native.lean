import EntityStore.Native
import EntityStore.Proofs.Value

/-!
# Objects without the marks of keys

Equality of keys does not look at their marks, so that equality of values and of objects does not
either, at any depth.

* `Value.unmarked_equal` — a value without marks compares like the value;
* `Native.unmarked` — the object with all marks of keys removed;
* `Native.unmarked_equal` — it compares like the object;
* `Native.equal_of_unmarked_eq` — objects that agree but for marks compare alike;
* `Native.equal_ofProperties_self` — mappings of properties equal themselves if all properties do.
-/

namespace EntityStore

theorem Key.unmarked_same_left (k l : Key) : k.unmarked.same l = k.same l := by
  rw [same_eq_decide, same_eq_decide, unmarked_unmarked]

namespace Value

variable (c : Comparison)

mutual

/-- **Marks do not count in comparisons of values.** -/
theorem unmarked_equal : ∀ v w : Value, v.unmarked.equal c w = v.equal c w
  | wrapped v, w => by
    cases w with
    | wrapped w => exact unmarked_equal v w
    | _ => rfl
  | key k, w => by
    cases w with
    | key l => exact k.unmarked_same_left l
    | _ => rfl
  | entity fields, w => by
    cases w with
    | entity others =>
      rw [unmarked, equal, equal, length_unmarkedFields, unmarked_equalFields fields others]
    | _ => rfl
  | array items, w => by
    cases w with
    | array others => exact unmarked_equalItems items others
    | _ => rfl
  | bare, _ | null, _ | boolean _, _ | integer _, _ | double _, _ | timestamp _, _ | string _, _
  | blob _, _ | geoPoint _, _ => rfl

theorem unmarked_equalFields :
    ∀ fields others, equalFields c (unmarkedFields fields) others = equalFields c fields others
  | [], _ => rfl
  | (name, v) :: rest, others => by
    rw [unmarkedFields, equalFields, equalFields, unmarked_equalFields rest others]
    cases others.lookup name with
    | none => rfl
    | some w => simp only [unmarked_equal v w]

theorem unmarked_equalItems :
    ∀ items others, equalItems c (unmarkedItems items) others = equalItems c items others
  | [], _ => rfl
  | v :: rest, others => by
    cases others with
    | nil => rfl
    | cons w others =>
      rw [unmarkedItems, equalItems, equalItems, unmarked_equal v w,
        unmarked_equalItems rest others]

end

/-- **A value equals itself** where its parts are shared. -/
theorem equal_shared_self (v : Value) (h : v.WellFormed) : v.equal .shared v = true := by
  rw [← unmarked_equal]
  exact equal_unmarked_of_doubles doubles_shared_self v h (.inl rfl)

end Value

/-- The entity with keys that have no marks. -/
def Entity.unmarked (e : Entity) : Entity :=
  ⟨e.key.unmarked, Value.unmarkedFields e.properties⟩

theorem Entity.unmarked_equal (c : Comparison) (e f : Entity) :
    e.unmarked.equal c f = e.equal c f := by
  have hproperties := Value.unmarked_equal c (.entity e.properties) (.entity f.properties)
  show (e.key.unmarked.same f.key && (Value.entity e.properties).unmarked.equal c _) = _
  rw [hproperties, e.key.unmarked_same_left]
  rfl

namespace Native

mutual

/-- The object with keys that have no marks, at every depth. -/
def unmarked : Native → Native
  | key k => key k.unmarked
  | mapping form entries => mapping form (unmarkedEntries entries)
  | list items => list (unmarkedItems items)
  | tuple items => tuple (unmarkedItems items)
  | value v => value v.unmarked
  | converter v => converter v.unmarked
  | record type fields => record type (unmarkedFields fields)
  | entity e => entity e.unmarked
  | n => n

/-- Items with keys that have no marks. -/
def unmarkedItems : List Native → List Native
  | [] => []
  | n :: rest => unmarked n :: unmarkedItems rest

/-- Entries with keys that have no marks. -/
def unmarkedEntries : List (Native × Native) → List (Native × Native)
  | [] => []
  | (name, n) :: rest => (unmarked name, unmarked n) :: unmarkedEntries rest

/-- Fields with keys that have no marks. -/
def unmarkedFields : List (String × Native) → List (String × Native)
  | [] => []
  | (name, n) :: rest => (name, unmarked n) :: unmarkedFields rest

end

theorem unmarked_ofProperties (entries : List (String × Native)) :
    (ofProperties entries).unmarked = ofProperties (unmarkedFields entries) := by
  have hentries : unmarkedEntries (entries.map fun e => (string e.1, e.2)) =
      (unmarkedFields entries).map fun e => (string e.1, e.2) := by
    induction entries with
    | nil => rfl
    | cons e rest ih =>
      rw [List.map_cons, unmarkedEntries, unmarkedFields, List.map_cons, ih]
      rfl
  exact congrArg (mapping .plain) hentries

/-! ### Comparisons -/

variable (c : Comparison)

theorem unmarked_equalScalars (a b : Native) :
    equalScalars c a.unmarked b = equalScalars c a b := by
  cases a with
  | key k =>
    cases b with
    | key l => exact k.unmarked_same_left l
    | _ => rfl
  | value v =>
    cases b with
    | value w => exact v.unmarked_equal c w
    | _ => rfl
  | entity e =>
    cases b with
    | entity f => exact e.unmarked_equal c f
    | _ => rfl
  | mapping _ _ | list _ | tuple _ | record _ _ | converter _ => cases b <;> rfl
  | _ => rfl

theorem length_unmarkedEntries (entries : List (Native × Native)) :
    (unmarkedEntries entries).length = entries.length := by
  induction entries with
  | nil => rfl
  | cons e rest ih => rw [unmarkedEntries, List.length_cons, ih, List.length_cons]

mutual

/-- **Marks do not count in comparisons of objects.** -/
theorem unmarked_equal : ∀ a b : Native, a.unmarked.equal c b = a.equal c b
  | mapping form entries, b => by
    cases b with
    | mapping _ others =>
      rw [unmarked, equal, equal, length_unmarkedEntries entries,
        unmarked_equalEntries entries others]
    | _ => simpa only [unmarked, equal] using unmarked_equalScalars c (mapping form entries) _
  | list items, b => by
    cases b with
    | list others => rw [unmarked, equal, equal, unmarked_equalItems items others]
    | _ => simpa only [unmarked, equal] using unmarked_equalScalars c (list items) _
  | tuple items, b => by
    cases b with
    | tuple others => rw [unmarked, equal, equal, unmarked_equalItems items others]
    | _ => simpa only [unmarked, equal] using unmarked_equalScalars c (tuple items) _
  | record type fields, b => by
    cases b with
    | record other others =>
      rw [unmarked, equal, equal, unmarked_equalFields fields others]
    | _ => simpa only [unmarked, equal] using unmarked_equalScalars c (record type fields) _
  | key k, b => by simpa only [unmarked, equal] using unmarked_equalScalars c (key k) b
  | value v, b => by simpa only [unmarked, equal] using unmarked_equalScalars c (value v) b
  | entity e, b => by simpa only [unmarked, equal] using unmarked_equalScalars c (entity e) b
  | converter v, b => by simpa only [unmarked, equal] using unmarked_equalScalars c (converter v) b
  | null, _ | boolean _, _ | integer _, _ | derivedInteger _, _ | double _, _ | string _, _
  | derivedString _, _ | binary _ _, _ | dateTime _ _, _ | geoPoint _, _ | enum _ _, _ | keyless, _
  | recordType _, _ | other _, _ => rfl

theorem unmarked_equalItems :
    ∀ items others, equalItems c (unmarkedItems items) others = equalItems c items others
  | [], _ => rfl
  | n :: rest, others => by
    cases others with
    | nil => simp only [unmarkedItems, equalItems]
    | cons m others =>
      rw [unmarkedItems, equalItems, equalItems, unmarked_equal n m,
        unmarked_equalItems rest others]

theorem unmarked_equalEntries :
    ∀ entries others,
      equalEntries c (unmarkedEntries entries) others = equalEntries c entries others
  | [], _ => rfl
  | (name, n) :: rest, others => by
    rw [unmarkedEntries, equalEntries, equalEntries, unmarked_equalEntries rest others]
    simp only [unmarked_equalScalars]
    cases others.find? fun e => equalScalars c name e.1 with
    | none => rfl
    | some e => simp only [unmarked_equal n e.2]

theorem unmarked_equalFields :
    ∀ fields others, equalFields c (unmarkedFields fields) others = equalFields c fields others
  | [], _ => rfl
  | (name, n) :: rest, others => by
    cases others with
    | nil => simp only [unmarkedFields, equalFields]
    | cons e others =>
      rw [unmarkedFields, equalFields, equalFields, unmarked_equal n e.2,
        unmarked_equalFields rest others]

end

/-- **Objects that agree but for the marks of keys compare alike.** -/
theorem equal_of_unmarked_eq {a b : Native} (h : a.unmarked = b.unmarked) (n : Native) :
    a.equal c n = b.equal c n := by
  rw [← unmarked_equal, h, unmarked_equal]

/-! ### Objects that equal themselves -/

theorem equalItems_self {items : List Native} (h : ∀ n ∈ items, n.equal c n = true) :
    equalItems c items items = true := by
  induction items with
  | nil => rw [equalItems]
  | cons n rest ih =>
    rw [equalItems, h n List.mem_cons_self, ih fun m hm => h m (List.mem_cons_of_mem n hm)]
    rfl

theorem equalFields_self {fields : List (String × Native)}
    (h : ∀ e ∈ fields, e.2.equal c e.2 = true) : equalFields c fields fields = true := by
  induction fields with
  | nil => rw [equalFields]
  | cons e rest ih =>
    rw [equalFields, beq_self_eq_true, h e List.mem_cons_self,
      ih fun d hd => h d (List.mem_cons_of_mem e hd)]
    rfl

/-- The property with a name is found under it. -/
theorem find?_properties (name : String) (entries : List (String × Native)) :
    (entries.map fun e => (string e.1, e.2)).find? (fun e => equalScalars c (string name) e.1) =
      (entries.lookup name).map fun n => (string name, n) := by
  induction entries with
  | nil => rfl
  | cons e rest ih =>
    obtain ⟨n, item⟩ := e
    rw [List.map_cons, List.find?_cons, List.lookup_cons, ih,
      show equalScalars c (string name) (string n) = (name == n) from rfl]
    cases hname : name == n with
    | true =>
      obtain rfl := beq_iff_eq.mp hname
      rfl
    | false => rfl

theorem equal_ofProperties_self {entries : List (String × Native)}
    (hnames : (entries.map Prod.fst).Nodup) (h : ∀ e ∈ entries, e.2.equal c e.2 = true) :
    (ofProperties entries).equal c (ofProperties entries) = true := by
  -- the entries on the right stay while those on the left are gone through
  have hentries : ∀ part : List (String × Native), part ⊆ entries →
      equalEntries c (part.map fun e => (string e.1, e.2))
        (entries.map fun e => (string e.1, e.2)) = true := by
    intro part hpart
    induction part with
    | nil => rw [List.map_nil, equalEntries]
    | cons e rest ih =>
      obtain ⟨hmem, hrest⟩ := List.cons_subset.mp hpart
      rw [List.map_cons, equalEntries, find?_properties, lookup_of_mem hnames hmem, ih hrest]
      simp only [Option.map_some, h e hmem, Bool.and_self]
  rw [ofProperties, equal, beq_self_eq_true, hentries entries (List.Subset.refl entries)]
  rfl

end Native

end EntityStore
