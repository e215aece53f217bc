import EntityStore.Proofs.Convert.RoundTrip

/-!
# The table of an enum

A member of an enum is stored under its wire name, and a text is read as the member that it is the
wire name of. Wire names may be shared, in which case the last member is read, and a name that
stands for an earlier member has no wire name of its own.

* `CanonicalMembers` — the members of an enum and what all its names stand for;
* `canonicalMembers_canonical` — those that come of a declaration;
* `fromValue_string_iff`, `intoValue_enum` — members are stored, and read back if they are the last;
* `IsTable` — how the two directions of a table fit together;
* `defineEnum_isTable` — they do so for every enum that is defined;
* `not_faithful_table` — a rename that is not followed, and a member that is not read back.
-/

namespace EntityStore

/-! ### Members and their names -/

/-- `own` are the members among those that are declared, and `names` has the member that each
declared name stands for. A member stands for itself. -/
structure CanonicalMembers (members own : List (String × Native)) (names : List (String × String)) :
    Prop where
  sublist : own.Sublist members
  declared : names.map Prod.fst = members.map Prod.fst
  stands : ∀ e ∈ names, e.2 ∈ own.map Prod.fst
  self : ∀ m ∈ own, (m.1, m.1) ∈ names

/-- The members and names with one more declaration. -/
def addMember (table : List (String × Native) × List (String × String)) (m : String × Native) :
    List (String × Native) × List (String × String) :=
  match table.1.find? fun d => d.2.equal .apart m.2 with
  | some d => (table.1, table.2 ++ [(m.1, d.1)])
  | none => (table.1 ++ [m], table.2 ++ [(m.1, m.1)])

theorem canonicalMembers_eq (members : List (String × Native)) :
    Schema.canonicalMembers members = members.foldl addMember ([], []) := rfl

/-- A declaration with an equal value makes a name for the earlier member, and any other one makes a
member. -/
theorem CanonicalMembers.extend {front : List (String × Native)}
    {table : List (String × Native) × List (String × String)}
    (h : CanonicalMembers front table.1 table.2) (m : String × Native) :
    CanonicalMembers (front ++ [m]) (addMember table m).1 (addMember table m).2 := by
  unfold addMember
  cases hfound : table.1.find? fun d => d.2.equal .apart m.2 with
  | some d =>
    have hd : d ∈ table.1 := List.mem_of_find?_eq_some hfound
    refine ⟨?_, ?_, ?_, ?_⟩
    · exact h.sublist.trans (List.sublist_append_left front [m])
    · rw [List.map_append, List.map_append, h.declared]
      rfl
    · intro e he
      rcases List.mem_append.mp he with hold | hnew
      · exact h.stands e hold
      · obtain rfl := List.mem_singleton.mp hnew
        exact List.mem_map_of_mem hd
    · intro n hn
      exact List.mem_append_left _ (h.self n hn)
  | none =>
    refine ⟨?_, ?_, ?_, ?_⟩
    · exact h.sublist.append (List.Sublist.refl [m])
    · rw [List.map_append, List.map_append, h.declared]
      rfl
    · intro e he
      rw [List.map_append, List.mem_append]
      rcases List.mem_append.mp he with hold | hnew
      · exact Or.inl (h.stands e hold)
      · obtain rfl := List.mem_singleton.mp hnew
        exact Or.inr (List.mem_singleton_self m.1)
    · intro n hn
      rcases List.mem_append.mp hn with hold | hnew
      · exact List.mem_append_left _ (h.self n hold)
      · obtain rfl := List.mem_singleton.mp hnew
        exact List.mem_append_right _ (List.mem_singleton_self _)

theorem canonicalMembers_canonical (members : List (String × Native)) :
    CanonicalMembers members (Schema.canonicalMembers members).1
      (Schema.canonicalMembers members).2 := by
  -- the declarations are added behind those that are there already
  have hrun : ∀ (rest front : List (String × Native))
      (table : List (String × Native) × List (String × String)),
      CanonicalMembers front table.1 table.2 →
      CanonicalMembers (front ++ rest) (rest.foldl addMember table).1
        (rest.foldl addMember table).2 := by
    intro rest
    induction rest with
    | nil =>
      intro front table h
      rw [List.append_nil]
      exact h
    | cons m rest ih =>
      intro front table h
      rw [List.append_cons]
      exact ih (front ++ [m]) (addMember table m) (h.extend m)
  rw [canonicalMembers_eq]
  exact hrun members [] ([], []) ⟨.slnil, rfl, nofun, nofun⟩

/-! ### Conversions of members -/

variable {s : Schema} {name : String} {e : EnumType}

theorem fromValue_string (he : s.enum? name = some e) (wire : String) :
    fromValue s (.string wire) (.plain (.type name)) = Schema.readMember e wire := by
  show readDefined s (.string wire) name [] = _
  rw [readDefined, Schema.lookup_of_enum? he]

/-- A member is stored under its own wire name. -/
theorem intoValue_enum (he : s.enum? name = some e) (hnames : (e.members.map Prod.fst).Nodup)
    {member wire : String} (h : (member, wire) ∈ e.members) :
    intoValue s (.enum name member) = .ok (.string wire) := by
  show s.memberValue name member = _
  rw [Schema.memberValue, he, Option.bind_some, EnumType.wireName?, lookup_of_mem hnames h]

/-- A text that is no wire name is refused. -/
theorem fromValue_string_of_not_mem (he : s.enum? name = some e) {text : String}
    (h : text ∉ e.members.map Prod.snd) :
    fromValue s (.string text) (.plain (.type name)) =
      .error (.decode (.unknownVariant text e.name)) := by
  rw [fromValue_string he, Schema.readMember, EnumType.member?_eq_none h]

/-- A wire name is read as the last member that has it. -/
theorem fromValue_string_of_last (he : s.enum? name = some e)
    {front back : List (String × String)} {member wire : String}
    (h : e.members = front ++ (member, wire) :: back) (hlast : wire ∉ back.map Prod.snd) :
    fromValue s (.string wire) (.plain (.type name)) = .ok (.enum e.name member) := by
  rw [fromValue_string he, Schema.readMember, EnumType.member?_of_last h hlast]

/-- A member is read back from its wire name exactly if no later one has the same. -/
theorem fromValue_string_iff (he : s.enum? name = some e) (hname : e.name = name)
    (hnames : (e.members.map Prod.fst).Nodup) {front back : List (String × String)}
    {member wire : String} (h : e.members = front ++ (member, wire) :: back) :
    fromValue s (.string wire) (.plain (.type name)) = .ok (.enum name member) ↔
      wire ∉ back.map Prod.snd := by
  constructor
  · intro hread hmem
    obtain ⟨front', other, back', rfl, hlast⟩ := EnumType.exists_last hmem
    have hsplit : e.members = (front ++ (member, wire) :: front') ++ (other, wire) :: back' := by
      rw [h, List.append_assoc, List.cons_append]
    rw [fromValue_string_of_last he hsplit hlast] at hread
    obtain ⟨-, rfl⟩ := Native.enum.inj (Except.ok.inj hread)
    rw [h] at hnames
    simp [List.nodup_append] at hnames
  · intro hlast
    rw [fromValue_string_of_last he h hlast, hname]

/-! ### Definitions of enums -/

section Definitions

variable {members : List (String × Native)} {renames : List (String × String)} {casing : Casing}

/-- A rename that is no empty text is the wire name of a member. -/
theorem memberWireName_of_rename {member wire : String}
    (h : renames.lookup member = some wire) (hwire : wire ≠ "") :
    Schema.memberWireName renames casing member = wire := by
  rw [Schema.memberWireName, h]
  split
  · rename_i hempty
    exact absurd (Option.some.inj hempty) hwire
  · rename_i hnone
    cases hnone
  · rename_i found hfound
    exact (Option.some.inj hfound).symm

theorem declaredEnum_members (name : String) (members : List (String × Native))
    (renames : List (String × String)) (casing : Casing) :
    (Schema.declaredEnum name members renames casing).members.map Prod.fst =
      (Schema.canonicalMembers members).1.map Prod.fst := by
  rw [Schema.declaredEnum, List.map_map]
  rfl

/-- Members are among the declared names. -/
theorem sublist_declaredEnum (name : String) (members : List (String × Native))
    (renames : List (String × String)) (casing : Casing) :
    ((Schema.declaredEnum name members renames casing).members.map Prod.fst).Sublist
      (members.map Prod.fst) := by
  rw [declaredEnum_members]
  exact (canonicalMembers_canonical members).sublist.map Prod.fst

theorem wire_of_mem_declaredEnum {member wire : String}
    (h : (member, wire) ∈ (Schema.declaredEnum name members renames casing).members) :
    wire = Schema.memberWireName renames casing member := by
  obtain ⟨m, -, heq⟩ := List.mem_map.mp h
  obtain ⟨rfl, rfl⟩ := Prod.mk.inj heq
  rfl

/-- A declared name stands for a member, and the name of a member for this one. -/
theorem memberNamed_of_declared (hmembers : (members.map Prod.fst).Nodup)
    (he : s.enum? name = some (Schema.declaredEnum name members renames casing)) {n : String}
    (hn : n ∈ members.map Prod.fst) :
    ∃ member ∈ (Schema.declaredEnum name members renames casing).members.map Prod.fst,
      s.memberNamed name n = .ok (.enum name member) ∧
        (n ∈ (Schema.declaredEnum name members renames casing).members.map Prod.fst → member = n) := by
  have hcanonical := canonicalMembers_canonical members
  rw [declaredEnum_members]
  rw [← hcanonical.declared] at hn hmembers
  obtain ⟨⟨n, member⟩, hentry, rfl⟩ := List.mem_map.mp hn
  have hstands : (Schema.declaredEnum name members renames casing).names.lookup n = some member :=
    lookup_of_mem hmembers hentry
  refine ⟨member, hcanonical.stands _ hentry, ?_, fun hself => ?_⟩
  · rw [Schema.memberNamed, he, Option.bind_some, hstands]
  · obtain ⟨m, hm, hname⟩ := List.mem_map.mp hself
    have hsame : (Schema.declaredEnum name members renames casing).names.lookup m.1 = some m.1 :=
      lookup_of_mem hmembers (hcanonical.self m hm)
    dsimp only at hname
    rw [hname, hstands] at hsame
    exact Option.some.inj hsame

end Definitions

/-! ### Tables -/

/-- How the two directions of an enum's table fit together, where the enum is declared with
`members` and `renames` and a casing. A member is read back unless a later one has its wire name. A
rename is followed for a member; for a name that stands for another member it is not, unless the
wire name of this member happens to be the same. -/
structure IsTable (s : Schema) (name : String) (members : List (String × Native))
    (renames : List (String × String)) (casing : Casing) (e : EnumType) : Prop where
  declared : (e.members.map Prod.fst).Sublist (members.map Prod.fst)
  named : ∀ n ∈ members.map Prod.fst, ∃ member ∈ e.members.map Prod.fst,
    s.memberNamed name n = .ok (.enum name member) ∧ (n ∈ e.members.map Prod.fst → member = n)
  stored : ∀ member wire, (member, wire) ∈ e.members →
    wire = Schema.memberWireName renames casing member ∧
      intoValue s (.enum name member) = .ok (.string wire)
  restored : ∀ front member wire back, e.members = front ++ (member, wire) :: back →
    (fromValue s (.string wire) (.plain (.type name)) = .ok (.enum name member) ↔
      wire ∉ back.map Prod.snd)
  renamed : ∀ n wire, renames.lookup n = some wire → wire ≠ "" →
    ∃ member, s.memberNamed name n = .ok (.enum name member) ∧
      (intoValue s (.enum name member) = .ok (.string wire) ↔
        member = n ∨ Schema.memberWireName renames casing member = wire)
  read : ∀ text, (∃ n, fromValue s (.string text) (.plain (.type name)) = .ok n) ↔
    text ∈ e.members.map Prod.snd
  refused : ∀ text, text ∉ e.members.map Prod.snd →
    fromValue s (.string text) (.plain (.type name)) =
      .error (.decode (.unknownVariant text name))

/-- An enum that comes of a declaration is a table. -/
theorem isTable_declaredEnum {members : List (String × Native)} {renames : List (String × String)}
    {casing : Casing} (hmembers : (members.map Prod.fst).Nodup)
    (hrenames : ∀ n ∈ renames.map Prod.fst, n ∈ members.map Prod.fst)
    (he : s.enum? name = some (Schema.declaredEnum name members renames casing)) :
    IsTable s name members renames casing (Schema.declaredEnum name members renames casing) := by
  have hnames := hmembers.sublist (sublist_declaredEnum name members renames casing)
  constructor
  case declared => exact sublist_declaredEnum name members renames casing
  case named => exact fun n hn => memberNamed_of_declared hmembers he hn
  case stored =>
    intro member wire hmem
    exact ⟨wire_of_mem_declaredEnum hmem, intoValue_enum he hnames hmem⟩
  case restored => exact fun front member wire back h => fromValue_string_iff he rfl hnames h
  case renamed =>
    intro n wire hn hwire
    have hdeclared := hrenames n (List.mem_map_of_mem (mem_of_lookup hn))
    obtain ⟨member, hmember, hstands, -⟩ := memberNamed_of_declared hmembers he hdeclared
    obtain ⟨⟨member, own⟩, hentry, rfl⟩ := List.mem_map.mp hmember
    refine ⟨member, hstands, ?_⟩
    rw [intoValue_enum he hnames hentry, wire_of_mem_declaredEnum hentry]
    constructor
    · intro hsame
      exact Or.inr (Value.string.inj (Except.ok.inj hsame))
    · rintro (rfl | hsame)
      · rw [memberWireName_of_rename hn hwire]
      · rw [hsame]
  case read =>
    intro text
    constructor
    · rintro ⟨n, hn⟩
      by_contra htext
      rw [fromValue_string_of_not_mem he htext] at hn
      cases hn
    · intro htext
      obtain ⟨front, member, back, hsplit, hlast⟩ := EnumType.exists_last htext
      exact ⟨_, fromValue_string_of_last he hsplit hlast⟩
  case refused => exact fun text htext => fromValue_string_of_not_mem he htext

/-- **The table of every enum that is defined.** It is one in any schema that has the enum under its
name, so that later definitions of other types do not matter. -/
theorem defineEnum_isTable {s t : Schema} {name : String} {members : List (String × Native)}
    {casing? : Option String} {renames : List (String × String)}
    (hmembers : (members.map Prod.fst).Nodup)
    (h : s.defineEnum name members casing? renames = .ok t) :
    ∃ casing e, Schema.casingOrCamel casing? = .ok casing ∧ t.enum? name = some e ∧
      ∀ u : Schema, u.enum? name = some e → IsTable u name members renames casing e := by
  obtain ⟨casing, hcasing, hrenames, rfl⟩ := Schema.defineEnum_eq_ok h
  rw [(canonicalMembers_canonical members).declared] at hrenames
  refine ⟨casing, Schema.declaredEnum name members renames casing, hcasing, ?_, fun u hu => ?_⟩
  · rw [Schema.enum?, lookup_assign_self]
  · exact isTable_declaredEnum hmembers hrenames hu

/-- Members of a plan, the second of which has the value of the first. -/
def planMembers : List (String × Native) :=
  [("FREE", .integer 0), ("TRIAL", .integer 0), ("TEAM", .integer 1), ("FIRM", .integer 2)]

/-- Wire names for all names of a plan, two of them the same. -/
def planRenames : List (String × String) :=
  [("FREE", "free"), ("TRIAL", "trial"), ("TEAM", "paid"), ("FIRM", "paid")]

/-- The enum with three of the names for members. -/
def planType : EnumType :=
  ⟨"Plan", [("FREE", "free"), ("TEAM", "paid"), ("FIRM", "paid")],
    [("FREE", "FREE"), ("TRIAL", "FREE"), ("TEAM", "TEAM"), ("FIRM", "FIRM")]⟩

/-- The schema of plans. -/
def plans : Schema :=
  [("Plan", .enum planType)]

theorem defined_plans : Schema.defineEnum [] "Plan" planMembers none planRenames = .ok plans := by
  have hmembers : Schema.canonicalMembers planMembers =
      ([("FREE", .integer 0), ("TEAM", .integer 1), ("FIRM", .integer 2)], planType.names) := by
    simp [Schema.canonicalMembers, planMembers, planType, Native.equal, Native.equalScalars,
      Native.integer?]
  rw [Schema.defineEnum, hmembers]
  rfl

/-- The plans make a table. -/
theorem defineEnum_isTable_plans :
    IsTable plans "Plan" planMembers planRenames .camel planType := by
  obtain ⟨casing, e, hcasing, he, htable⟩ := defineEnum_isTable (by decide) defined_plans
  obtain rfl := Except.ok.inj hcasing
  obtain rfl := Option.some.inj he
  exact htable _ rfl

/-- The table need not be faithful: a team is stored as a text that is read as a firm, and the wire
name that is given for a trial is not the one that it is stored under. -/
theorem not_faithful_table :
    (¬ ∀ (s t : Schema) (name : String) (members : List (String × Native))
        (casing? : Option String) (renames : List (String × String)),
      (members.map Prod.fst).Nodup → s.defineEnum name members casing? renames = .ok t →
      ∀ n member v, t.memberNamed name n = .ok member → intoValue t member = .ok v →
        fromValue t v (.plain (.type name)) = .ok member) ∧
    ¬ ∀ (s t : Schema) (name : String) (members : List (String × Native))
        (casing? : Option String) (renames : List (String × String)),
      (members.map Prod.fst).Nodup → s.defineEnum name members casing? renames = .ok t →
      ∀ n member wire, t.memberNamed name n = .ok member → renames.lookup n = some wire →
        wire ≠ "" → intoValue t member = .ok (.string wire) := by
  constructor
  · intro hall
    have hteam := hall _ _ _ _ _ _ (by decide) defined_plans "TEAM" (.enum "Plan" "TEAM")
      (.string "paid") rfl rfl
    have hfirm : fromValue plans (.string "paid") (.plain (.type "Plan")) =
        .ok (.enum "Plan" "FIRM") := rfl
    rw [hfirm] at hteam
    obtain ⟨-, hname⟩ := Native.enum.inj (Except.ok.inj hteam)
    exact absurd hname (by decide)
  · intro hall
    have htrial := hall _ _ _ _ _ _ (by decide) defined_plans "TRIAL" (.enum "Plan" "FREE") "trial"
      rfl rfl (by decide)
    have hfree : intoValue plans (.enum "Plan" "FREE") = .ok (.string "free") := rfl
    rw [hfree] at htrial
    exact absurd (Value.string.inj (Except.ok.inj htrial)) (by decide)

end EntityStore
