import EntityStore.Proofs.Wire.Value

/-!
# Flags in the messages of values

The flag that keeps a value out of indexes is handed down from a property through wrappers, arrays
and nested records to every node of its message. Arrays pass it on without taking it. Apart from
the flags, the message is the same under every policy.

* `Wire.Value.nodes` — a message and all messages in it, at any depth;
* `Wire.Value.unflagged`, `Wire.Entity.unflagged` — messages with all flags taken away;
* `Value.excluded_of_mem_nodes`, `Value.unflagged_encode` — the flags of a value, and what is left;
* `Entity.excluded_of_mem_nodes`, `Entity.unflagged_encode` — the same for entities under a policy.
-/

namespace EntityStore

/-! ### Nodes and flags -/

namespace Wire

/-- Whether a value is an array. -/
def Value.isArray : Value → Bool
  | mk (.array _) _ _ => true
  | _ => false

mutual

/-- A value and all values in it. -/
def Value.nodes : Value → List Value
  | .mk content meaning excluded => .mk content meaning excluded :: content.nodes

/-- The values in a content. -/
def Content.nodes : Content → List Value
  | .entity _ properties => fieldNodes properties
  | .array items => itemNodes items
  | .unset | .null _ | .boolean _ | .integer _ | .double _ | .timestamp _ _ | .key _ | .string _
  | .blob _ | .geoPoint _ => []

/-- The values in properties. -/
def fieldNodes : List (String × Value) → List Value
  | [] => []
  | (_, w) :: rest => w.nodes ++ fieldNodes rest

/-- The values in items. -/
def itemNodes : List Value → List Value
  | [] => []
  | w :: rest => w.nodes ++ itemNodes rest

end

mutual

/-- The value with the flags of all its nodes taken away. -/
def Value.unflagged : Value → Value
  | .mk content meaning _ => .mk content.unflagged meaning false

/-- The content with all flags taken away. -/
def Content.unflagged : Content → Content
  | .entity key properties => .entity key (unflaggedFields properties)
  | .array items => .array (unflaggedItems items)
  | .unset => .unset
  | .null code => .null code
  | .boolean b => .boolean b
  | .integer n => .integer n
  | .double d => .double d
  | .timestamp seconds nanos => .timestamp seconds nanos
  | .key k => .key k
  | .string s => .string s
  | .blob b => .blob b
  | .geoPoint p => .geoPoint p

/-- Properties with all flags taken away. -/
def unflaggedFields : List (String × Value) → List (String × Value)
  | [] => []
  | (name, w) :: rest => (name, w.unflagged) :: unflaggedFields rest

/-- Items with all flags taken away. -/
def unflaggedItems : List Value → List Value
  | [] => []
  | w :: rest => w.unflagged :: unflaggedItems rest

end

/-- The entity with all flags taken away. -/
def Entity.unflagged (e : Entity) : Entity :=
  ⟨e.key, unflaggedFields e.properties⟩

end Wire

/-! ### Values -/

namespace Value

variable {project : String} {excluded : Bool}

mutual

/-- **Every node of a message has the flag that the value is given**, except that arrays have
none. -/
theorem excluded_of_mem_nodes :
    ∀ (v : Value) (w : Wire.Value), v.encode project excluded = .ok w →
      ∀ node ∈ w.nodes, node.excluded = (excluded && !node.isArray)
  | bare, _, hw => nomatch hw
  | wrapped v, w, hw => excluded_of_mem_nodes v w hw
  | entity fields, w, hw => by
    intro node hnode
    obtain ⟨ps, hps, rfl⟩ := map_eq_ok hw
    rcases List.mem_cons.mp hnode with rfl | hinner
    · show excluded = (excluded && true)
      rw [Bool.and_true]
    · exact excluded_of_mem_fieldNodes fields ps hps node hinner
  | array items, w, hw => by
    intro node hnode
    obtain ⟨ws, hws, rfl⟩ := map_eq_ok hw
    rcases List.mem_cons.mp hnode with rfl | hinner
    · show false = (excluded && false)
      rw [Bool.and_false]
    · exact excluded_of_mem_itemNodes items ws hws node hinner
  | null, _, hw | boolean _, _, hw | integer _, _, hw | double _, _, hw | timestamp _, _, hw
  | key _, _, hw | string _, _, hw | blob _, _, hw | geoPoint _, _, hw => by
    intro node hnode
    obtain rfl := Except.ok.inj hw
    obtain rfl := List.mem_singleton.mp hnode
    show excluded = (excluded && true)
    rw [Bool.and_true]

theorem excluded_of_mem_fieldNodes :
    ∀ fields ps, encodeFields project excluded fields = .ok ps →
      ∀ node ∈ Wire.fieldNodes ps, node.excluded = (excluded && !node.isArray)
  | [], _, hps => by
    intro node hnode
    obtain rfl := Except.ok.inj hps
    cases hnode
  | (name, v) :: rest, _, hps => by
    intro node hnode
    rw [encodeFields_cons] at hps
    obtain ⟨w, qs, hw, hqs, rfl⟩ := both_eq_ok hps
    rcases List.mem_append.mp hnode with hhere | hrest
    · exact excluded_of_mem_nodes v w hw node hhere
    · exact excluded_of_mem_fieldNodes rest qs hqs node hrest

theorem excluded_of_mem_itemNodes :
    ∀ items ws, encodeItems project excluded items = .ok ws →
      ∀ node ∈ Wire.itemNodes ws, node.excluded = (excluded && !node.isArray)
  | [], _, hws => by
    intro node hnode
    obtain rfl := Except.ok.inj hws
    cases hnode
  | v :: rest, _, hws => by
    intro node hnode
    rw [encodeItems_cons] at hws
    obtain ⟨w, xs, hw, hxs, rfl⟩ := both_eq_ok hws
    rcases List.mem_append.mp hnode with hhere | hrest
    · exact excluded_of_mem_nodes v w hw node hhere
    · exact excluded_of_mem_itemNodes rest xs hxs node hrest

end

mutual

/-- **Only the flags of a message depend on the flag that the value is given.** Without them it is
the message of the value that is indexed. -/
theorem unflagged_encode :
    ∀ (v : Value) (w : Wire.Value), v.encode project excluded = .ok w →
      v.encode project false = .ok w.unflagged
  | bare, _, hw => nomatch hw
  | wrapped v, w, hw => unflagged_encode v w hw
  | entity fields, w, hw => by
    obtain ⟨ps, hps, rfl⟩ := map_eq_ok hw
    rw [encode, unflaggedFields_encode fields ps hps]
    rfl
  | array items, w, hw => by
    obtain ⟨ws, hws, rfl⟩ := map_eq_ok hw
    rw [encode, unflaggedItems_encode items ws hws]
    rfl
  | null, _, hw | boolean _, _, hw | integer _, _, hw | double _, _, hw | timestamp _, _, hw
  | key _, _, hw | string _, _, hw | blob _, _, hw | geoPoint _, _, hw => by
    obtain rfl := Except.ok.inj hw
    rfl

theorem unflaggedFields_encode :
    ∀ fields ps, encodeFields project excluded fields = .ok ps →
      encodeFields project false fields = .ok (Wire.unflaggedFields ps)
  | [], _, hps => by
    obtain rfl := Except.ok.inj hps
    rfl
  | (name, v) :: rest, _, hps => by
    rw [encodeFields_cons] at hps
    obtain ⟨w, qs, hw, hqs, rfl⟩ := both_eq_ok hps
    rw [encodeFields_cons, unflagged_encode v w hw, unflaggedFields_encode rest qs hqs]
    rfl

theorem unflaggedItems_encode :
    ∀ items ws, encodeItems project excluded items = .ok ws →
      encodeItems project false items = .ok (Wire.unflaggedItems ws)
  | [], _, hws => by
    obtain rfl := Except.ok.inj hws
    rfl
  | v :: rest, _, hws => by
    rw [encodeItems_cons] at hws
    obtain ⟨w, xs, hw, hxs, rfl⟩ := both_eq_ok hws
    rw [encodeItems_cons, unflagged_encode v w hw, unflaggedItems_encode rest xs hxs]
    rfl

end

end Value

/-! ### Entities -/

namespace Entity

variable {project : String} {policy : Policy}

theorem excluded_of_mem_properties (kind : String) :
    ∀ fields ps, encodeProperties project policy kind fields = .ok ps →
      ∀ p ∈ ps, ∀ node ∈ p.2.nodes,
        node.excluded = (policy.isExcluded kind p.1 && !node.isArray)
  | [], _, hps => by
    intro p hp
    obtain rfl := Except.ok.inj hps
    cases hp
  | (name, v) :: rest, _, hps => by
    intro p hp node hnode
    rw [encodeProperties_cons] at hps
    obtain ⟨w, qs, hw, hqs, rfl⟩ := both_eq_ok hps
    rcases List.mem_cons.mp hp with rfl | hrest
    · exact v.excluded_of_mem_nodes w hw node hnode
    · exact excluded_of_mem_properties kind rest qs hqs p hrest node hnode

theorem unflaggedFields_encodeProperties (kind : String) :
    ∀ fields ps, encodeProperties project policy kind fields = .ok ps →
      encodeProperties project .empty kind fields = .ok (Wire.unflaggedFields ps)
  | [], _, hps => by
    obtain rfl := Except.ok.inj hps
    rfl
  | (name, v) :: rest, _, hps => by
    rw [encodeProperties_cons] at hps
    obtain ⟨w, qs, hw, hqs, rfl⟩ := both_eq_ok hps
    have hindexed : v.encode project (Policy.empty.isExcluded kind name) = .ok w.unflagged :=
      v.unflagged_encode w hw
    rw [encodeProperties_cons, hindexed, unflaggedFields_encodeProperties kind rest qs hqs]
    rfl

/-- **The flags of an entity are those of the policy for its kind**, property by property. -/
theorem excluded_of_mem_nodes {e : Entity} {w : Wire.Entity} (hw : e.encode project policy = .ok w)
    {name : String} {m : Wire.Value} (hm : (name, m) ∈ w.properties) {node : Wire.Value}
    (hnode : node ∈ m.nodes) :
    node.excluded = (policy.isExcluded e.key.kind name && !node.isArray) := by
  obtain ⟨ps, hps, rfl⟩ := map_eq_ok hw
  exact excluded_of_mem_properties e.key.kind e.properties ps hps (name, m) hm node hnode

/-- **Only the flags of an entity depend on the policy.** -/
theorem unflagged_encode {e : Entity} {w : Wire.Entity} (hw : e.encode project policy = .ok w) :
    e.encode project .empty = .ok w.unflagged := by
  obtain ⟨ps, hps, rfl⟩ := map_eq_ok hw
  rw [encode, unflaggedFields_encodeProperties e.key.kind e.properties ps hps]
  rfl

end Entity

end EntityStore
