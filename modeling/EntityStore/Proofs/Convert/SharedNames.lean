import EntityStore.Proofs.Convert.Fields

/-!
# Fields that share a wire name

Nothing keeps two fields of a record from being stored under one name, which a field has from its
own name in a casing, from a rename, or from the record that is extended. The entity then has one
property for both, with the value of the last one, and the first one reads it.

* `lookup_intoFields`, `intoValue_record` — the entity of an instance;
* `fromValue_of_distinct` — fields with names of their own are all read back;
* `exists_repeated` — a place where a name is repeated;
* `lookup_of_repeated`, `fromValue_of_repeated` — a field whose name is used up has no argument;
* `StoresRows` — what becomes of the fields of an instance;
* `record_keeps_fields` — an instance is kept exactly if no two of its fields share a name;
* `not_distinct_wireNames` — a record with two fields that do.
-/

namespace EntityStore

variable {s : Schema} {name : String} {r : RecordType} {casing : Casing}

/-! ### Fields and their properties -/

theorem lookup_intoFields (objects : List (String × Native)) (name : String) :
    (intoFields s objects).lookup name = (objects.lookup name).map (intoValue s) := by
  induction objects with
  | nil => rfl
  | cons o rest ih =>
    obtain ⟨m, n⟩ := o
    rw [intoFields, List.lookup_cons, List.lookup_cons, ih]
    cases name == m <;> rfl

/-- Each field of the rows is in the instance, with an object that has the value beside the
field. -/
def HoldsRows (s : Schema) (objects : List (String × Native)) (rows : List (RecordField × Value)) :
    Prop :=
  ∀ row ∈ rows, ∃ n, objects.lookup row.1.name = some n ∧ intoValue s n = .ok row.2

/-- The property that each row asks for. -/
def rowProperties (rows : List (RecordField × Value)) : List (String × Value) :=
  rows.map fun row => (row.1.wireName, row.2)

@[simp] theorem names_rowProperties (rows : List (RecordField × Value)) :
    (rowProperties rows).map Prod.fst = (rows.map Prod.fst).map RecordField.wireName := by
  rw [rowProperties, List.map_map, List.map_map]
  rfl

/-- An instance becomes the entity of its properties, set one after the other. -/
theorem intoValue_record {objects : List (String × Native)} {rows : List (RecordField × Value)}
    (hr : s.record? name = some r) (hcasing : r.casing? = some casing)
    (hfields : s.recordFields r casing = .ok (rows.map Prod.fst))
    (hrows : HoldsRows s objects rows) :
    intoValue s (.record name objects) = .ok (.entity (assignAll (rowProperties rows))) := by
  rw [intoValue, Schema.recordValue, hr, Option.bind_some, hcasing, Option.map_some]
  dsimp only
  rw [hfields]
  show ((rows.map Prod.fst).mapM _ >>= fun properties =>
    Except.ok (Value.entity (assignAll properties))) = _
  rw [mapM_rows fun row : RecordField × Value => (row.1.wireName, row.2)]
  · rfl
  · intro row hrow
    obtain ⟨n, hn, hv⟩ := hrows row hrow
    have hfound : (intoFields s objects).lookup row.1.name = some (.ok row.2) := by
      rw [lookup_intoFields, hn, Option.map_some, hv]
    rw [hfound]
    rfl

/-! ### Fields with names of their own -/

/-- The fields that take part in conversions are distinct, as all fields are. -/
theorem nodup_recordFields {fields : List RecordField} (hs : s.WellFormed)
    (hr : s.record? name = some r) (hfields : s.recordFields r casing = .ok fields) :
    (fields.map RecordField.name).Nodup := by
  have hnames : (r.fields.map Field.name).Nodup := (hs.of_record? hr).2
  rw [recordFields_eq_ok hfields, List.map_map]
  exact hnames.sublist (List.filter_sublist.map Field.name)

/-- Fields with names of their own get what is read from the values that stand beside them. -/
theorem fromValue_of_distinct {rows : List (RecordField × Value)} (hs : s.WellFormed)
    (hr : s.record? name = some r) (hcasing : r.casing? = some casing)
    (hfields : s.recordFields r casing = .ok (rows.map Prod.fst))
    (hdistinct : ((rows.map Prod.fst).map RecordField.wireName).Nodup)
    {object : RecordField → Native}
    (hread : ∀ row ∈ rows, fromValue s row.2 row.1.type = .ok (object row.1)) :
    ∃ objects, fromValue s (.entity (rowProperties rows)) (.plain (.type name)) =
        .ok (.record name objects) ∧
      ∀ row ∈ rows, objects.lookup row.1.name = some (object row.1) := by
  let arguments := rows.map fun row => (row.1.name, object row.1)
  have hwires : (rows.map fun row => row.1.wireName).Nodup := by
    rw [List.map_map] at hdistinct
    exact hdistinct
  have harguments : Schema.readFields (rows.map Prod.fst) (readers s (rowProperties rows)) =
      .ok arguments :=
    readFields_rows (fun f => f) object hwires hread
  refine ⟨r.objects arguments, ?_, fun row hrow => ?_⟩
  · rw [fromValue_record hs hr hcasing hfields rfl, harguments]
    rfl
  · obtain ⟨field, hfield, hinit, heq⟩ := exists_field hfields (List.mem_map_of_mem hrow)
    have hnames := nodup_recordFields hs hr hfields
    rw [List.map_map] at hnames
    have hgiven : arguments.lookup row.1.name = some (object row.1) :=
      lookup_rows (fun row : RecordField × Value => row.1.name) (fun row => object row.1) hnames hrow
    have hname : row.1.name = field.name := congrArg RecordField.name heq
    rw [hname] at hgiven ⊢
    rw [lookup_objects (hs.of_record? hr).2 hfield, if_pos hinit, hgiven, Option.some_or]

/-! ### Fields without a name of their own -/

/-- Where not all items have names of their own, one of them has the name of an earlier one. -/
theorem exists_repeated {α : Type} {f : α → String} {as : List α} (h : ¬ (as.map f).Nodup) :
    ∃ front a back, as = front ++ a :: back ∧ f a ∈ front.map f := by
  induction as with
  | nil => exact absurd List.nodup_nil h
  | cons a rest ih =>
    by_cases hmem : f a ∈ rest.map f
    · obtain ⟨b, hb, hname⟩ := List.mem_map.mp hmem
      obtain ⟨between, back, rfl⟩ := List.append_of_mem hb
      refine ⟨a :: between, b, back, rfl, ?_⟩
      rw [hname]
      exact List.mem_cons_self
    · have hrest : ¬ (rest.map f).Nodup := fun hnodup => h (List.nodup_cons.mpr ⟨hmem, hnodup⟩)
      obtain ⟨front, b, back, rfl, hb⟩ := ih hrest
      exact ⟨a :: front, b, back, rfl, List.mem_cons_of_mem (f a) hb⟩

/-- A field that has the wire name of an earlier one finds its property used up. It gets no
argument, and the fields are read only if it need not have one. -/
theorem lookup_of_repeated {properties : List (String × Value)} {front back : List RecordField}
    {f : RecordField} (hnames : ((front ++ f :: back).map RecordField.name).Nodup)
    (hrepeated : f.wireName ∈ front.map RecordField.wireName)
    {arguments : List (String × Native)}
    (h : Schema.readFields (front ++ f :: back) (readers s properties) = .ok arguments) :
    f.required = false ∧ arguments.lookup f.name = none := by
  rw [← unassignAll_nil properties] at h
  obtain ⟨before, behind, rfl, hbefore, hbehind⟩ := readFields_append h
  rw [readFields_cons_used] at hbehind
  obtain ⟨given, after, hgiven, hafter, rfl⟩ := both_eq_ok hbehind
  have hused : (unassignAll ([] ++ front.map RecordField.wireName) properties).lookup f.wireName =
      none := by
    rw [lookup_unassignAll, List.nil_append, if_pos hrepeated]
  rw [readField_of_absent hused] at hgiven
  cases hrequired : f.required with
  | true =>
    rw [hrequired, if_pos rfl] at hgiven
    cases hgiven
  | false =>
    rw [hrequired] at hgiven
    obtain rfl := Except.ok.inj hgiven
    -- an argument of the same name could come of a field before it or behind it alone
    refine ⟨rfl, lookup_eq_none_iff.mpr fun hmem => ?_⟩
    rw [List.map_append, List.map_cons, List.nodup_append, List.nodup_cons] at hnames
    obtain ⟨-, ⟨hback, -⟩, hfront⟩ := hnames
    rw [List.map_append, List.mem_append] at hmem
    rcases hmem with hmem | hmem
    · exact hfront _ ((names_of_readFields hbefore).subset hmem) _ List.mem_cons_self rfl
    · exact hback ((names_of_readFields hafter).subset hmem)

/-- A record of which two fields share a name has a field that is never read: it has its default in
every instance that is read, and where it has none, no instance is read. -/
theorem fromValue_of_repeated {fields : List RecordField} (hs : s.WellFormed)
    (hr : s.record? name = some r) (hcasing : r.casing? = some casing)
    (hfields : s.recordFields r casing = .ok fields)
    (hrepeated : ¬ (fields.map RecordField.wireName).Nodup) :
    ∃ field ∈ r.fields, field.isInit = true ∧ ∀ properties n,
      fromValue s (.entity properties) (.plain (.type name)) = .ok n →
      ∃ objects default, n = .record name objects ∧ field.default? = some default ∧
        objects.lookup field.name = some default := by
  obtain ⟨front, f, back, rfl, hmem⟩ := exists_repeated hrepeated
  obtain ⟨field, hfield, hinit, rfl⟩ :=
    exists_field hfields (List.mem_append_right front List.mem_cons_self)
  refine ⟨field, hfield, hinit, fun properties n hn => ?_⟩
  rw [fromValue_record hs hr hcasing hfields rfl] at hn
  obtain ⟨arguments, harguments, rfl⟩ := map_eq_ok hn
  obtain ⟨hoptional, hnone⟩ :=
    lookup_of_repeated (nodup_recordFields hs hr hfields) hmem harguments
  obtain ⟨default, hdefault⟩ : ∃ default, field.default? = some default := by
    refine Option.isSome_iff_exists.mp ?_
    rwa [Field.stored, Field.isRequired, Option.isNone_eq_false_iff] at hoptional
  refine ⟨r.objects arguments, default, rfl, hdefault, ?_⟩
  rw [lookup_objects (hs.of_record? hr).2 hfield, if_pos hinit, hdefault]
  show ((arguments.lookup (field.stored casing).name).or (some default)) = _
  rw [hnone, Option.none_or]

/-! ### Instances -/

/-- What becomes of an instance in the properties that it is stored as, where each row has a field
and the value of what the instance has in it. A wire name has the value of the last field with this
name. If all wire names are different, the properties are those of the fields, in their order, and
every field gets back what is read from its own value. Else there are fewer properties than fields,
and one of the fields is never read. -/
structure StoresRows (s : Schema) (name : String) (r : RecordType)
    (rows : List (RecordField × Value)) (properties : List (String × Value)) : Prop where
  last : ∀ front f v back, rows = front ++ (f, v) :: back →
    f.wireName ∉ (back.map Prod.fst).map RecordField.wireName →
    properties.lookup f.wireName = some v
  kept : ((rows.map Prod.fst).map RecordField.wireName).Nodup →
    properties = rowProperties rows ∧
    ∀ object : RecordField → Native,
      (∀ row ∈ rows, fromValue s row.2 row.1.type = .ok (object row.1)) →
      ∃ back, fromValue s (.entity properties) (.plain (.type name)) = .ok (.record name back) ∧
        ∀ row ∈ rows, back.lookup row.1.name = some (object row.1)
  lost : ¬ ((rows.map Prod.fst).map RecordField.wireName).Nodup →
    properties.length < rows.length ∧
    ∃ field ∈ r.fields, field.isInit = true ∧ ∀ n,
      fromValue s (.entity properties) (.plain (.type name)) = .ok n →
      ∃ back default, n = .record name back ∧ field.default? = some default ∧
        back.lookup field.name = some default

/-- **An instance is kept exactly if no two of its fields share a wire name.** It becomes an entity
in either case. -/
theorem record_keeps_fields (hs : s.Built) (hr : s.record? name = some r)
    (hcasing : r.casing? = some casing) {rows : List (RecordField × Value)}
    (hfields : s.recordFields r casing = .ok (rows.map Prod.fst))
    {objects : List (String × Native)} (hrows : HoldsRows s objects rows) :
    ∃ properties, intoValue s (.record name objects) = .ok (.entity properties) ∧
      StoresRows s name r rows properties := by
  refine ⟨_, intoValue_record hr hcasing hfields hrows, ?_⟩
  constructor
  case last =>
    rintro front f v back rfl hlast
    rw [rowProperties, List.map_append, List.map_cons]
    refine lookup_assignAll ?_
    rw [← rowProperties, names_rowProperties]
    exact hlast
  case kept =>
    intro hdistinct
    have hkept : assignAll (rowProperties rows) = rowProperties rows := by
      refine assignAll_of_nodup ?_
      rw [names_rowProperties]
      exact hdistinct
    rw [hkept]
    exact ⟨rfl, fun object hread =>
      fromValue_of_distinct hs.wellFormed hr hcasing hfields hdistinct hread⟩
  case lost =>
    intro hrepeated
    obtain ⟨field, hfield, hinit, hdefault⟩ :=
      fromValue_of_repeated hs.wellFormed hr hcasing hfields hrepeated
    rw [← names_rowProperties] at hrepeated
    have hfewer := length_assignAll_lt hrepeated
    rw [rowProperties, List.length_map, ← rowProperties] at hfewer
    exact ⟨hfewer, field, hfield, hinit, hdefault _⟩

/-- Contacts with two addresses. The first one can be stored under another name than its own. -/
def contact (rename : Option String) : RecordType :=
  ⟨"Contact", some .camel,
    [⟨"email", .plain .string, rename, none, true⟩,
      ⟨"mail", .optional .string, none, some .null, true⟩],
    [.plain .string, .optional .string]⟩

/-- The schema of contacts. -/
def contacts (rename : Option String) : Schema :=
  [("Contact", .record (contact rename))]

theorem built_contacts (rename : Option String) : (contacts rename).Built := by
  have hcontact : Schema.defineRecord [] ⟨"Contact", none, true, none,
      [⟨"email", .plain .string, rename, none, none, true⟩,
        ⟨"mail", .optional .string, none, some .null, none, true⟩]⟩ = .ok (contacts rename) := rfl
  exact .record .empty hcontact

/-- The objects in the fields of a contact. -/
def anna : List (String × Native) :=
  [("email", .string "anna@home"), ("mail", .string "Main Street")]

/-- The fields of a contact with the values of these objects. -/
def annaRows : List (RecordField × Value) :=
  [(⟨"email", "email", .plain .string, true⟩, .string "anna@home"),
    (⟨"mail", "mail", .optional .string, false⟩, .string "Main Street")]

/-- Without a rename, both addresses are stored and read back. -/
theorem record_keeps_fields_anna :
    ∃ back, intoValue (contacts none) (.record "Contact" anna) =
        .ok (.entity (rowProperties annaRows)) ∧
      fromValue (contacts none) (.entity (rowProperties annaRows)) (.plain (.type "Contact")) =
        .ok (.record "Contact" back) ∧
      back.lookup "email" = some (.string "anna@home") ∧
      back.lookup "mail" = some (.string "Main Street") := by
  have hrows : HoldsRows (contacts none) anna annaRows := by
    intro row hrow
    rcases List.mem_pair.mp hrow with rfl | rfl
    · exact ⟨_, rfl, rfl⟩
    · exact ⟨_, rfl, rfl⟩
  have hr : (contacts none).record? "Contact" = some (contact none) := rfl
  have hfields : (contacts none).recordFields (contact none) .camel =
      .ok (annaRows.map Prod.fst) := rfl
  obtain ⟨properties, hinto, hstores⟩ :=
    record_keeps_fields (built_contacts none) hr rfl hfields hrows
  obtain ⟨rfl, hread⟩ := hstores.kept (by decide)
  obtain ⟨back, hback, hlookup⟩ := hread
    (fun f => if f.name = "email" then .string "anna@home" else .string "Main Street") (by
      intro row hrow
      rcases List.mem_pair.mp hrow with rfl | rfl
      · rfl
      · rfl)
  exact ⟨back, hinto, hback, hlookup _ List.mem_cons_self,
    hlookup _ (List.mem_cons_of_mem _ List.mem_cons_self)⟩

/-- Two fields can have the same wire name. The first address is then lost, and the second one is
read in its place. -/
theorem not_distinct_wireNames :
    (¬ ∀ (s : Schema) (name : String) (r : RecordType) (casing : Casing)
        (fields : List RecordField), s.Built → s.record? name = some r →
      r.casing? = some casing → s.recordFields r casing = .ok fields →
      (fields.map RecordField.wireName).Nodup) ∧
    intoValue (contacts (some "mail")) (.record "Contact" anna) =
      .ok (.entity [("mail", .string "Main Street")]) ∧
    fromValue (contacts (some "mail")) (.entity [("mail", .string "Main Street")])
        (.plain (.type "Contact")) =
      .ok (.record "Contact" [("email", .string "Main Street"), ("mail", .null)]) := by
  refine ⟨fun hall => ?_, rfl, rfl⟩
  have hdistinct := hall _ "Contact" (contact (some "mail")) .camel _ (built_contacts _) rfl rfl rfl
  exact absurd hdistinct (by decide)

end EntityStore
