import EntityStore.Proofs.Association
import EntityStore.Proofs.Key

/-!
# The parts of values

What holds of a value at every depth, and how equality looks at it.

* `Value.WellFormed` — the keys in a value are well formed, and the names of properties distinct;
* `Value.hasBare` — whether a value of no variant occurs;
* `Value.erase_erase`, `Value.wellFormed_erase` — the value without wrappers;
* `Value.unmarked` — the value with all marks of keys removed;
* `Value.equal_unmarked` — removing marks gives an equal value.
-/

namespace EntityStore

namespace Value

/-! ### Properties of all parts -/

mutual

/-- All keys in the value are well formed, and no properties of one entity share a name. -/
def WellFormed : Value → Prop
  | wrapped v => WellFormed v
  | key k => k.WellFormed
  | entity fields => (fields.map Prod.fst).Nodup ∧ WellFormedFields fields
  | array items => WellFormedItems items
  | _ => True

/-- The values of all properties are well formed. -/
def WellFormedFields : List (String × Value) → Prop
  | [] => True
  | (_, v) :: rest => WellFormed v ∧ WellFormedFields rest

/-- All items are well formed. -/
def WellFormedItems : List Value → Prop
  | [] => True
  | v :: rest => WellFormed v ∧ WellFormedItems rest

end

mutual

/-- Whether a value of no variant occurs, at any depth. -/
def hasBare : Value → Bool
  | bare => true
  | wrapped v => hasBare v
  | entity fields => hasBareFields fields
  | array items => hasBareItems items
  | _ => false

/-- Whether a value of no variant occurs in properties. -/
def hasBareFields : List (String × Value) → Bool
  | [] => false
  | (_, v) :: rest => hasBare v || hasBareFields rest

/-- Whether a value of no variant occurs in items. -/
def hasBareItems : List Value → Bool
  | [] => false
  | v :: rest => hasBare v || hasBareItems rest

end

mutual

/-- The value with keys that have no marks, at every depth. -/
def unmarked : Value → Value
  | wrapped v => wrapped (unmarked v)
  | key k => key k.unmarked
  | entity fields => entity (unmarkedFields fields)
  | array items => array (unmarkedItems items)
  | v => v

/-- Properties with keys that have no marks. -/
def unmarkedFields : List (String × Value) → List (String × Value)
  | [] => []
  | (name, v) :: rest => (name, unmarked v) :: unmarkedFields rest

/-- Items with keys that have no marks. -/
def unmarkedItems : List Value → List Value
  | [] => []
  | v :: rest => unmarked v :: unmarkedItems rest

end

/-! ### Wrappers -/

@[simp] theorem names_eraseFields (fields : List (String × Value)) :
    (eraseFields fields).map Prod.fst = fields.map Prod.fst := by
  induction fields with
  | nil => rfl
  | cons e rest ih =>
    obtain ⟨name, v⟩ := e
    rw [eraseFields, List.map_cons, List.map_cons, ih]

@[simp] theorem length_eraseFields (fields : List (String × Value)) :
    (eraseFields fields).length = fields.length := by
  rw [← List.length_map Prod.fst, names_eraseFields, List.length_map]

/-- The value without wrappers is none itself. -/
theorem erase_ne_wrapped : ∀ v w : Value, v.erase ≠ wrapped w
  | wrapped v, w => erase_ne_wrapped v w
  | bare, _ | null, _ | boolean _, _ | integer _, _ | double _, _ | timestamp _, _ | key _, _
  | string _, _ | blob _, _ | geoPoint _, _ | entity _, _ | array _, _ => nofun

mutual

@[simp] theorem erase_erase : ∀ v : Value, v.erase.erase = v.erase
  | wrapped v => erase_erase v
  | entity fields => congrArg entity (eraseFields_erase fields)
  | array items => congrArg array (eraseItems_erase items)
  | bare | null | boolean _ | integer _ | double _ | timestamp _ | key _ | string _ | blob _
  | geoPoint _ => rfl

@[simp] theorem eraseFields_erase :
    ∀ fields, eraseFields (eraseFields fields) = eraseFields fields
  | [] => rfl
  | (name, v) :: rest => by
    rw [eraseFields, eraseFields, erase_erase v, eraseFields_erase rest]

@[simp] theorem eraseItems_erase : ∀ items, eraseItems (eraseItems items) = eraseItems items
  | [] => rfl
  | v :: rest => by
    rw [eraseItems, eraseItems, erase_erase v, eraseItems_erase rest]

end

mutual

theorem wellFormed_erase : ∀ v : Value, v.WellFormed → v.erase.WellFormed
  | wrapped v, h => by
    rw [erase]
    exact wellFormed_erase v h
  | entity fields, h => by
    refine ⟨?_, wellFormed_eraseFields fields h.2⟩
    rw [names_eraseFields]
    exact h.1
  | array items, h => wellFormed_eraseItems items h
  | key k, h => h
  | bare, _ | null, _ | boolean _, _ | integer _, _ | double _, _ | timestamp _, _ | string _, _
  | blob _, _ | geoPoint _, _ => trivial

theorem wellFormed_eraseFields :
    ∀ fields, WellFormedFields fields → WellFormedFields (eraseFields fields)
  | [], _ => trivial
  | (_, v) :: rest, h => ⟨wellFormed_erase v h.1, wellFormed_eraseFields rest h.2⟩

theorem wellFormed_eraseItems : ∀ items, WellFormedItems items → WellFormedItems (eraseItems items)
  | [], _ => trivial
  | v :: rest, h => ⟨wellFormed_erase v h.1, wellFormed_eraseItems rest h.2⟩

end

mutual

@[simp] theorem hasBare_erase : ∀ v : Value, v.erase.hasBare = v.hasBare
  | wrapped v => by
    rw [erase, hasBare]
    exact hasBare_erase v
  | entity fields => hasBareFields_erase fields
  | array items => hasBareItems_erase items
  | key _ | bare | null | boolean _ | integer _ | double _ | timestamp _ | string _ | blob _
  | geoPoint _ => rfl

@[simp] theorem hasBareFields_erase : ∀ fields, hasBareFields (eraseFields fields) = hasBareFields fields
  | [] => rfl
  | (_, v) :: rest => by
    rw [eraseFields, hasBareFields, hasBareFields, hasBare_erase v, hasBareFields_erase rest]

@[simp] theorem hasBareItems_erase : ∀ items, hasBareItems (eraseItems items) = hasBareItems items
  | [] => rfl
  | v :: rest => by
    rw [eraseItems, hasBareItems, hasBareItems, hasBare_erase v, hasBareItems_erase rest]

end

/-! ### Equality -/

@[simp] theorem length_unmarkedFields (fields : List (String × Value)) :
    (unmarkedFields fields).length = fields.length := by
  induction fields with
  | nil => rfl
  | cons e rest ih =>
    obtain ⟨name, v⟩ := e
    rw [unmarkedFields, List.length_cons, List.length_cons, ih]

@[simp] theorem doubles_bits_self (d : Double) : Comparison.bits.doubles d d = true :=
  beq_self_eq_true d.canonical

@[simp] theorem doubles_shared_self (d : Double) : Comparison.shared.doubles d d = true := by
  show (d.bits == d.bits || d.equals d) = true
  rw [beq_self_eq_true, Bool.true_or]

variable {c : Comparison}

mutual

/-- **A value equals itself without the marks of its keys** where every double equals itself, unless
it has parts of no variant, which equal only themselves. -/
theorem equal_unmarked_of_doubles (hc : ∀ d, c.doubles d d = true) :
    ∀ v : Value, v.WellFormed → (c = .shared ∨ v.hasBare = false) → equal c v.unmarked v = true
  | bare, _, h => by
    obtain rfl := h.resolve_right nofun
    rfl
  | null, _, _ => rfl
  | wrapped v, h, hbare => equal_unmarked_of_doubles hc v h hbare
  | boolean b, _, _ => beq_self_eq_true b
  | integer n, _, _ => beq_self_eq_true n
  | double d, _, _ => hc d
  | timestamp t, _, _ => beq_self_eq_true t
  | key k, _, _ => k.unmarked_same
  | string s, _, _ => beq_self_eq_true s
  | blob b, _, _ => beq_self_eq_true b
  | geoPoint p, _, _ => by
    show (c.doubles p.latitude p.latitude && c.doubles p.longitude p.longitude) = true
    rw [hc, hc]
    rfl
  | entity fields, h, hbare => by
    rw [unmarked, equal, length_unmarkedFields, beq_self_eq_true, Bool.true_and]
    exact equalFields_unmarked hc fields fields h.2 hbare fun name v hmem => lookup_of_mem h.1 hmem
  | array items, h, hbare => equalItems_unmarked hc items h hbare

/-- The properties are looked up in a list `all` that holds them; the induction leaves it as it
is. -/
theorem equalFields_unmarked (hc : ∀ d, c.doubles d d = true) :
    ∀ fields all : List (String × Value), WellFormedFields fields →
      (c = .shared ∨ hasBareFields fields = false) →
      (∀ name v, (name, v) ∈ fields → all.lookup name = some v) →
      equalFields c (unmarkedFields fields) all = true
  | [], _, _, _, _ => rfl
  | (name, v) :: rest, all, h, hbare, hall => by
    have hfound : all.lookup name = some v := hall name v List.mem_cons_self
    have hparts : c = .shared ∨ v.hasBare = false ∧ hasBareFields rest = false :=
      hbare.imp_right Bool.or_eq_false_iff.mp
    rw [unmarkedFields, equalFields, hfound]
    show (equal c v.unmarked v && equalFields c (unmarkedFields rest) all) = true
    rw [equal_unmarked_of_doubles hc v h.1 (hparts.imp_right And.left),
      equalFields_unmarked hc rest all h.2 (hparts.imp_right And.right) fun n w hmem =>
        hall n w (List.mem_cons_of_mem _ hmem)]
    rfl

theorem equalItems_unmarked (hc : ∀ d, c.doubles d d = true) :
    ∀ items, WellFormedItems items → (c = .shared ∨ hasBareItems items = false) →
      equalItems c (unmarkedItems items) items = true
  | [], _, _ => rfl
  | v :: rest, h, hbare => by
    have hparts : c = .shared ∨ v.hasBare = false ∧ hasBareItems rest = false :=
      hbare.imp_right Bool.or_eq_false_iff.mp
    rw [unmarkedItems, equalItems,
      equal_unmarked_of_doubles hc v h.1 (hparts.imp_right And.left),
      equalItems_unmarked hc rest h.2 (hparts.imp_right And.right)]
    rfl

end

/-- A value equals itself without the marks of its keys, with doubles taken by their bits. -/
theorem equal_unmarked (v : Value) (h : v.WellFormed) (hbare : v.hasBare = false) :
    equal .bits v.unmarked v = true :=
  equal_unmarked_of_doubles doubles_bits_self v h (.inr hbare)

end Value

end EntityStore
