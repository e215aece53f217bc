import EntityStore.Proofs.Convert.Parts
import EntityStore.Proofs.Native
import EntityStore.Proofs.Outcome

/-!
# Readers side by side

Two values that hold the same things in different shapes give objects that agree, for every target
that says at every place what a value has to hold. Whether they do is asked of their readers, and
the functions that run over readers keep it.

* `Target.IsDefinite` — targets that say at every place what a value has to hold;
* `Native.Agrees` — objects that differ in the marks of keys at most;
* `Native.agrees_wrap`, `Native.agrees_record`, `Native.agrees_ofProperties` — they agree if their
  parts do;
* `Reader.Follows` — a reader that gives what another one gives, for definite targets;
* `follows_readAll`, `follows_readEach`, `follows_readProperties`, `follows_readFields` — lists of
  readers;
* `follows_instantiate` — instances of records.
-/

namespace EntityStore

/-! ### Definite targets -/

namespace Target

mutual

/-- At every place, the target says what a value has to hold. `names` has its defined types. -/
def DefiniteIn (names : List String) : Target → Prop
  | plain f | optional f => DefiniteFormIn names f

/-- At every place, the form says what a value has to hold. -/
def DefiniteFormIn (names : List String) : Form → Prop
  | .string | .integer | .double | .boolean | .binary | .dateTime | .key | .geoPoint => True
  | .list t | .tuple t | .mapping t => DefiniteIn names t
  | .fixed ts => DefiniteAllIn names ts
  | .type name => name ∈ names
  | .value | .any | .label | .variant _ | .union _ | .unsupported _ => False

/-- All targets are definite. -/
def DefiniteAllIn (names : List String) : List Target → Prop
  | [] => True
  | t :: ts => DefiniteIn names t ∧ DefiniteAllIn names ts

end

theorem DefiniteIn.form {names : List String} {t : Target} (h : t.DefiniteIn names) :
    DefiniteFormIn names t.form := by
  cases t <;> exact h

end Target

/-- The fields of the records among `names` are definite as well. -/
def Schema.DefinesIn (s : Schema) (names : List String) : Prop :=
  ∀ name ∈ names, ∀ r, s.record? name = some r → ∀ f ∈ r.fields, f.isInit = true →
    f.type.DefiniteIn names

/-- The target and the fields of all records that can be reached from it say at every place what a
value has to hold. Records may mention themselves. -/
def Target.IsDefinite (s : Schema) (t : Target) : Prop :=
  ∃ names, t.DefiniteIn names ∧ s.DefinesIn names

/-! ### Objects that agree -/

/-- Every default of a field equals itself. An object that equals nothing can come into a record as
a default only: all other objects that are read equal themselves. -/
def Schema.DefaultsSelfEqual (s : Schema) : Prop :=
  ∀ name r, s.record? name = some r → ∀ f ∈ r.fields, ∀ n, f.default? = some n →
    n.equal .bits n = true

/-- The objects differ in the marks of keys at most, and equal themselves if defaults do. -/
structure Native.Agrees (s : Schema) (x y : Native) : Prop where
  unmarked : y.unmarked = x.unmarked
  self : s.DefaultsSelfEqual → x.equal .bits x = true

namespace Native

variable {s : Schema}

theorem agrees_of_equal {n : Native} (h : n.equal .bits n = true) : Agrees s n n :=
  ⟨rfl, fun _ => h⟩

/-- What holds of agreeing items holds of their lists. -/
theorem agrees_items {xs ys : List Native} (h : List.Forall₂ (Agrees s) xs ys) :
    unmarkedItems ys = unmarkedItems xs ∧
      (s.DefaultsSelfEqual → ∀ n ∈ xs, n.equal .bits n = true) := by
  induction h with
  | nil => exact ⟨rfl, nofun⟩
  | cons hxy _ ih =>
    refine ⟨by rw [unmarkedItems, unmarkedItems, hxy.unmarked, ih.1], ?_⟩
    intro hs
    exact List.forall_mem_cons.mpr ⟨hxy.self hs, ih.2 hs⟩

/-- Lists and tuples agree if their items do. -/
theorem agrees_wrap {wrap : List Native → Native}
    (hunmarked : ∀ items, (wrap items).unmarked = wrap (unmarkedItems items))
    (hequal : ∀ items, (wrap items).equal .bits (wrap items) = equalItems .bits items items)
    {xs ys : List Native} (h : List.Forall₂ (Agrees s) xs ys) : Agrees s (wrap xs) (wrap ys) := by
  obtain ⟨hitems, hself⟩ := agrees_items h
  refine ⟨?_, fun hs => ?_⟩
  · rw [hunmarked, hunmarked, hitems]
  · rw [hequal]
    exact equalItems_self .bits (hself hs)

theorem agrees_list {xs ys : List Native} (h : List.Forall₂ (Agrees s) xs ys) :
    Agrees s (list xs) (list ys) :=
  agrees_wrap (fun _ => rfl) (fun _ => by rw [equal]) h

theorem agrees_tuple {xs ys : List Native} (h : List.Forall₂ (Agrees s) xs ys) :
    Agrees s (tuple xs) (tuple ys) :=
  agrees_wrap (fun _ => rfl) (fun _ => by rw [equal]) h

/-- What holds of agreeing entries holds of their lists. -/
theorem agrees_entries {xs ys : List (String × Native)} (h : Entrywise (Agrees s) xs ys) :
    unmarkedFields ys = unmarkedFields xs ∧
      (s.DefaultsSelfEqual → ∀ e ∈ xs, e.2.equal .bits e.2 = true) := by
  induction h with
  | nil => exact ⟨rfl, nofun⟩
  | cons hxy _ ih =>
    refine ⟨by rw [unmarkedFields, unmarkedFields, hxy.1, hxy.2.unmarked, ih.1], ?_⟩
    intro hs
    exact List.forall_mem_cons.mpr ⟨hxy.2.self hs, ih.2 hs⟩

theorem agrees_record (type : String) {xs ys : List (String × Native)}
    (h : Entrywise (Agrees s) xs ys) : Agrees s (record type xs) (record type ys) := by
  obtain ⟨hunmarked, hself⟩ := agrees_entries h
  refine ⟨congrArg (record type) hunmarked, fun hs => ?_⟩
  rw [equal, beq_self_eq_true, equalFields_self .bits (hself hs)]
  rfl

theorem agrees_ofProperties {xs ys : List (String × Native)} (hnames : (xs.map Prod.fst).Nodup)
    (h : Entrywise (Agrees s) xs ys) : Agrees s (ofProperties xs) (ofProperties ys) := by
  obtain ⟨hunmarked, hself⟩ := agrees_entries h
  refine ⟨?_, fun hs => equal_ofProperties_self .bits hnames (hself hs)⟩
  rw [unmarked_ofProperties, unmarked_ofProperties, hunmarked]

end Native

/-! ### Readers side by side -/

/-- Where the first reader gives an object for a definite target, the second gives one that
agrees with it. -/
def Reader.Follows (s : Schema) (names : List String) (read read' : Reader) : Prop :=
  ∀ t, t.DefiniteIn names → Outcome.Follows (Native.Agrees s) (read t) (read' t)

variable {s : Schema} {names : List String}

theorem follows_readAll {reads reads' : List Reader}
    (h : List.Forall₂ (Reader.Follows s names) reads reads') {t : Target}
    (ht : t.DefiniteIn names) :
    Outcome.Follows (List.Forall₂ (Native.Agrees s)) (readAll reads t) (readAll reads' t) := by
  induction h with
  | nil => exact .ok .nil
  | cons hread _ ih =>
    rw [readAll_cons, readAll_cons]
    exact (hread t ht).cons ih

theorem follows_readEach {reads reads' : List Reader}
    (h : List.Forall₂ (Reader.Follows s names) reads reads') {ts : List Target}
    (hts : Target.DefiniteAllIn names ts) :
    Outcome.Follows (List.Forall₂ (Native.Agrees s)) (readEach reads ts) (readEach reads' ts) := by
  induction h generalizing ts with
  | nil => exact .ok .nil
  | cons hread _ ih =>
    cases ts with
    | nil => exact .ok .nil
    | cons t ts =>
      rw [readEach_cons, readEach_cons]
      exact (hread t hts.1).cons (ih hts.2)

theorem follows_readProperties {reads reads' : List (String × Reader)}
    (h : Entrywise (Reader.Follows s names) reads reads') {t : Target} (ht : t.DefiniteIn names) :
    Outcome.Follows (fun xs ys => xs.map Prod.fst = reads.map Prod.fst ∧
      Entrywise (Native.Agrees s) xs ys) (readProperties reads t) (readProperties reads' t) := by
  induction h with
  | nil => exact .ok ⟨rfl, .nil⟩
  | @cons a b reads reads' hread _ ih =>
    obtain ⟨name, read⟩ := a
    obtain ⟨name', read'⟩ := b
    obtain ⟨rfl, hread⟩ := hread
    rw [readProperties_cons, readProperties_cons]
    refine (hread t ht).bind fun x y hxy => ih.map fun xs ys hxs => ?_
    exact ⟨congrArg (name :: ·) hxs.1, .cons ⟨rfl, hxy⟩ hxs.2⟩

theorem follows_readFields {fields : List RecordField}
    (hfields : ∀ f ∈ fields, f.type.DefiniteIn names) {reads reads' : List (String × Reader)}
    (h : Entrywise (Reader.Follows s names) reads reads') :
    Outcome.Follows (Entrywise (Native.Agrees s)) (Schema.readFields fields reads)
      (Schema.readFields fields reads') := by
  induction fields generalizing reads reads' with
  | nil => exact .ok .nil
  | cons f rest ih =>
    obtain ⟨hf, hrest⟩ := List.forall_mem_cons.mp hfields
    rcases h.lookup f.wireName with ⟨hread, hread'⟩ | ⟨read, read', hread, hread', hfollows⟩
    · rw [Schema.readFields, Schema.readFields, hread, hread']
      dsimp only
      split
      · exact .error _ _
      · exact ih hrest h
    · rw [readFields_cons hread, readFields_cons hread']
      refine (hfollows f.type hf).bind fun x y hxy => ?_
      exact (ih hrest (h.unassign f.wireName)).map fun xs ys hxs => .cons ⟨rfl, hxy⟩ hxs

/-! ### Instances -/

/-- What is in a field of the first instance agrees with what is in the field of the second. -/
theorem follows_fieldObject {type : String} {r : RecordType} (hr : s.record? type = some r)
    {f : Field} (hf : f ∈ r.fields) {xs ys : List (String × Native)}
    (h : Entrywise (Native.Agrees s) xs ys) :
    Outcome.Follows (Option.Rel fun a b => a.1 = b.1 ∧ Native.Agrees s a.2 b.2)
      (Schema.fieldObject xs f) (Schema.fieldObject ys f) := by
  have hgiven : ((if f.isInit then xs.lookup f.name else none) = none ∧
      (if f.isInit then ys.lookup f.name else none) = none) ∨
      ∃ x y, (if f.isInit then xs.lookup f.name else none) = some x ∧
        (if f.isInit then ys.lookup f.name else none) = some y ∧ Native.Agrees s x y := by
    cases f.isInit with
    | true => exact h.lookup f.name
    | false => exact .inl ⟨rfl, rfl⟩
  unfold Schema.fieldObject
  rcases hgiven with ⟨hx, hy⟩ | ⟨x, y, hx, hy, hxy⟩
  · rw [hx, hy]
    cases hdefault : f.default? with
    | none =>
      dsimp only
      split
      · exact .error _ _
      · exact .ok .none
    | some n =>
      have hn : Native.Agrees s n n := ⟨rfl, fun hs => hs type r hr f hf n hdefault⟩
      exact .ok (.some ⟨rfl, hn⟩)
  · rw [hx, hy]
    exact .ok (.some ⟨rfl, hxy⟩)

theorem follows_instantiate (type : String) {xs ys : List (String × Native)}
    (h : Entrywise (Native.Agrees s) xs ys) :
    Outcome.Follows (Native.Agrees s) (s.instantiate type xs) (s.instantiate type ys) := by
  unfold Schema.instantiate
  cases hr : s.record? type with
  | none => exact .error _ _
  | some r =>
    have hknown : ∀ p : String → Bool, (ys.all fun a => p a.1) = xs.all fun a => p a.1 := by
      intro p
      have hnames : (xs.map Prod.fst).all p = (ys.map Prod.fst).all p := by rw [h.names_eq]
      rw [List.all_map, List.all_map] at hnames
      exact hnames.symm
    dsimp only
    rw [hknown fun name => r.fields.any fun f => f.isInit && f.name == name]
    split
    · have hobjects := Outcome.Follows.mapM fun f hf => follows_fieldObject hr hf h
      exact hobjects.bind fun xs ys hxs =>
        .ok (Native.agrees_record type (List.rel_filterMap (fun _ _ hxy => hxy) hxs))
    · exact .error _ _

end EntityStore
