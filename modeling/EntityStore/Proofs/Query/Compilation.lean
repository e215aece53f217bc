import EntityStore.Proofs.Query.Builders
import EntityStore.Proofs.Wire.Equality

/-!
# Messages for queries

The message for a query says all that is asked for and nothing else. It fails only where a value in
a condition has no message, or where a number of results does not fit into its field.

* `Query.Refused` — why a query has no message;
* `Query.compile_eq_error_iff` — only then there is none;
* `Query.Compiles`, `Query.compile_eq_ok` — what a message says;
* `Wire.Query.equal` — equality of messages;
* `Query.AsksSame` — two queries that ask for the same;
* `compile_faithful` — the messages of two queries are equal exactly if they ask for the same.
-/

namespace EntityStore

variable {project : String}

namespace Query

/-! ### Queries without a message -/

/-- The largest number of results that fits into a field. -/
def fieldMax : Nat := 2147483647

/-- Whether a value of no variant occurs in a condition. -/
def hasBare (q : Query) : Bool :=
  q.filters.any (·.value.hasBare)

/-- Why a query has no message. Conditions are looked at first, and the offset before the limit. -/
inductive Refused (q : Query) : Error → Prop
  | bare (h : q.hasBare = true) : Refused q (.type .notEncodable)
  | offset (hbare : q.hasBare = false) (h : fieldMax < q.skip) :
    Refused q (.value (.fieldRange q.skip))
  | limit (hbare : q.hasBare = false) (hskip : q.skip ≤ fieldMax) {n : Nat} (hmax : q.max? = some n)
    (h : fieldMax < n) : Refused q (.value (.fieldRange n))

theorem field32_of_le {n : Nat} (h : n ≤ fieldMax) : field32 n = .ok (.ofInt n) :=
  if_pos h

theorem field32_of_lt {n : Nat} (h : fieldMax < n) : field32 n = .error (.value (.fieldRange n)) :=
  if_neg (Nat.not_le.mpr h)

/-- Conditions are treated one by one. -/
theorem compileFilters_eq_mapM (project : String) (filters : List Filter) :
    compileFilters project filters = filters.mapM fun f =>
      (f.value.encode project false).map (⟨f.property, f.operator, ·⟩) := by
  induction filters with
  | nil => rfl
  | cons f rest ih =>
    rw [compileFilters, List.mapM_cons, ih]
    cases f.value.encode project false with
    | error e => rfl
    | ok v => exact bind_pure_eq_map.symm

/-- The conditions have messages unless a value of no variant occurs in one of them. -/
theorem error?_compileFilters (project : String) (q : Query) :
    Outcome.error? (compileFilters project q.filters) =
      if q.hasBare then some (.type .notEncodable) else none := by
  rw [compileFilters_eq_mapM, Outcome.error?_mapM, hasBare]
  induction q.filters with
  | nil => rfl
  | cons f rest ih =>
    rw [List.findSome?_cons, ih, List.any_cons, Outcome.error?_map]
    cases hf : f.value.hasBare with
    | true =>
      rw [f.value.encode_of_hasBare project false hf]
      rfl
    | false =>
      obtain ⟨w, hw⟩ := f.value.encode_of_not_hasBare project false hf
      rw [hw]
      rfl

theorem exists_compileFilters (project : String) {q : Query} (h : q.hasBare = false) :
    ∃ ws, compileFilters project q.filters = .ok ws := by
  rw [← Outcome.error?_eq_none_iff, error?_compileFilters, h]
  rfl

/-- The message for a query is put together from the conditions and the two numbers. -/
theorem compile_eq (project : String) (q : Query) :
    q.compile project = (compileFilters project q.filters).bind fun filters =>
      (field32 q.skip).bind fun offset => (q.max?.mapM field32).map fun limit => {
        projection := q.effectiveProjection
        kind := [q.kind]
        filters := filters
        order := q.ordering.map fun o => (o.property, o.direction)
        distinctOn := q.distinct
        startCursor := q.cursor?.getD []
        offset := offset
        limit := limit } := by
  unfold compile
  simp only [← bind_pure_eq_map]
  cases q.max? <;> rfl

theorem compile_of_refused {q : Query} {e : Error} (h : q.Refused e) :
    q.compile project = .error e := by
  rw [compile_eq]
  cases h with
  | bare hbare =>
    have herror : compileFilters project q.filters = .error (.type .notEncodable) := by
      rw [← Outcome.error?_eq_some_iff, error?_compileFilters, if_pos hbare]
    rw [herror]
    rfl
  | offset hbare hskip =>
    obtain ⟨ws, hws⟩ := exists_compileFilters project hbare
    rw [hws, field32_of_lt hskip]
    rfl
  | limit hbare hskip hmax hn =>
    obtain ⟨ws, hws⟩ := exists_compileFilters project hbare
    rw [hws, field32_of_le hskip, hmax, Option.mapM_some, field32_of_lt hn]
    rfl

theorem refused_or_compile (project : String) (q : Query) :
    (∃ e, q.Refused e) ∨ ∃ m, q.compile project = .ok m := by
  cases hbare : q.hasBare with
  | true => exact .inl ⟨_, .bare hbare⟩
  | false =>
    obtain ⟨ws, hws⟩ := exists_compileFilters project hbare
    by_cases hskip : q.skip ≤ fieldMax
    · cases hmax : q.max? with
      | none =>
        rw [compile_eq, hws, field32_of_le hskip, hmax]
        exact .inr ⟨_, rfl⟩
      | some n =>
        by_cases hn : n ≤ fieldMax
        · rw [compile_eq, hws, field32_of_le hskip, hmax, Option.mapM_some, field32_of_le hn]
          exact .inr ⟨_, rfl⟩
        · exact .inl ⟨_, .limit hbare hskip hmax (Nat.lt_of_not_le hn)⟩
    · exact .inl ⟨_, .offset hbare (Nat.lt_of_not_le hskip)⟩

/-- **A query has a message unless it is refused.** -/
theorem compile_eq_error_iff {q : Query} {e : Error} :
    q.compile project = .error e ↔ q.Refused e := by
  refine ⟨fun h => ?_, compile_of_refused⟩
  rcases q.refused_or_compile project with ⟨e', he'⟩ | ⟨m, hm⟩
  · rw [compile_of_refused he'] at h
    exact Except.error.inj h ▸ he'
  · rw [hm] at h
    cases h

/-- A query is refused exactly if one of its parts has no message. -/
theorem exists_refused_iff {q : Query} :
    (∃ e, q.Refused e) ↔
      q.hasBare = true ∨ fieldMax < q.skip ∨ ∃ n, q.max? = some n ∧ fieldMax < n := by
  constructor
  · rintro ⟨e, h⟩
    cases h with
    | bare h => exact .inl h
    | offset _ h => exact .inr (.inl h)
    | limit _ _ hmax h => exact .inr (.inr ⟨_, hmax, h⟩)
  · intro h
    cases hbare : q.hasBare with
    | true => exact ⟨_, .bare hbare⟩
    | false =>
      by_cases hskip : fieldMax < q.skip
      · exact ⟨_, .offset hbare hskip⟩
      · obtain ⟨n, hmax, hn⟩ := (h.resolve_left (by simp [hbare])).resolve_left hskip
        exact ⟨_, .limit hbare (Nat.le_of_not_lt hskip) hmax hn⟩

end Query

/-! ### What a message says -/

/-- What the message for a condition says. -/
structure Filter.Compiles (project : String) (f : Filter) (w : Wire.PropertyFilter) : Prop where
  property : w.property = f.property
  operator : w.operator = f.operator
  value : f.value.encode project false = .ok w.value

namespace Query

/-- The properties that a query shows: those that it projects, else the key if it is for keys only,
and else all, for which the list is empty. -/
def shown (q : Query) : List String :=
  match q.projections, q.isKeysOnly with
  | [], true => ["__key__"]
  | [], false => []
  | properties, _ => properties

theorem effectiveProjection_eq (q : Query) : q.effectiveProjection = q.shown := by
  unfold effectiveProjection shown
  cases q.projections <;> cases q.isKeysOnly <;> rfl

/-- What the message for a query says. -/
structure Compiles (project : String) (q : Query) (m : Wire.Query) : Prop where
  kind : m.kind = [q.kind]
  projection : m.projection = q.shown
  filters : List.Forall₂ (Filter.Compiles project) q.filters m.filters
  ordering : m.order = q.ordering.map fun o => (o.property, o.direction)
  distinct : m.distinctOn = q.distinct
  cursor : m.startCursor = q.cursor?.getD []
  offset : m.offset.toInt = q.skip
  limit : m.limit.map Int32.toInt = q.max?.map Int.ofNat

theorem toInt_of_field32 {n : Nat} {m : Int32} (h : field32 n = .ok m) : m.toInt = n := by
  by_cases hle : n ≤ fieldMax
  · rw [field32_of_le hle] at h
    obtain rfl := Except.ok.inj h
    have hle' : n ≤ 2147483647 := hle
    exact Int32.toInt_ofInt_of_le (by omega) (by omega)
  · rw [field32_of_lt (Nat.lt_of_not_le hle)] at h
    cases h

/-- **The message of a query says what the query asks for.** -/
theorem compile_eq_ok {q : Query} {m : Wire.Query} (h : q.compile project = .ok m) :
    Compiles project q m := by
  rw [compile_eq] at h
  obtain ⟨ws, hws, h⟩ := bind_eq_ok h
  obtain ⟨offset, limit, hoffset, hlimit, rfl⟩ := both_eq_ok h
  rw [compileFilters_eq_mapM, mapM_eq_ok_iff] at hws
  refine ⟨rfl, q.effectiveProjection_eq, hws.imp fun f w hfw => ?_, rfl, rfl, rfl,
    toInt_of_field32 hoffset, ?_⟩
  · obtain ⟨v, hv, rfl⟩ := map_eq_ok hfw
    exact ⟨rfl, rfl, hv⟩
  · cases hmax : q.max? with
    | none =>
      rw [hmax] at hlimit
      obtain rfl := Except.ok.inj hlimit
      rfl
    | some n =>
      rw [hmax, Option.mapM_some] at hlimit
      obtain ⟨l, hl, rfl⟩ := map_eq_ok hlimit
      exact congrArg some (toInt_of_field32 hl)

end Query

/-! ### Equality of messages -/

/-- Whether two messages for conditions are equal. -/
def Wire.PropertyFilter.equal (c : Comparison) (a b : PropertyFilter) : Bool :=
  a.property == b.property && a.operator == b.operator && a.value.equal c b.value

/-- Whether two messages for queries are equal. -/
def Wire.Query.equal (c : Comparison) (a b : Query) : Bool :=
  a.kind == b.kind && a.projection == b.projection &&
    a.filters.isEqv b.filters (PropertyFilter.equal c) && a.order == b.order &&
    a.distinctOn == b.distinctOn && a.startCursor == b.startCursor && a.offset == b.offset &&
    a.limit == b.limit

/-- Two conditions ask for the same, but for wrappers and the marks of keys. -/
structure Filter.AsksSame (c : Comparison) (f g : Filter) : Prop where
  property : f.property = g.property
  operator : f.operator = g.operator
  value : f.value.erase.equal c g.value.erase = true

/-- Two queries ask for the same. A cursor that is not set is as good as an empty one, while a limit
that is not set is none. -/
structure Query.AsksSame (c : Comparison) (q r : Query) : Prop where
  kind : q.kind = r.kind
  projection : q.shown = r.shown
  filters : List.Forall₂ (Filter.AsksSame c) q.filters r.filters
  ordering : q.ordering = r.ordering
  distinct : q.distinct = r.distinct
  cursor : q.cursor?.getD [] = r.cursor?.getD []
  skip : q.skip = r.skip
  max : q.max? = r.max?

variable {c : Comparison}

theorem Filter.Compiles.equal_iff {f g : Filter} {v w : Wire.PropertyFilter}
    (hf : Filter.Compiles project f v) (hg : Filter.Compiles project g w)
    (hfv : f.value.WellFormed) (hgv : g.value.WellFormed) :
    v.equal c w = true ↔ Filter.AsksSame c f g := by
  rw [Wire.PropertyFilter.equal, Value.equal_encode hfv hgv hf.value hg.value, hf.property,
    hf.operator, hg.property, hg.operator]
  simp only [Bool.and_eq_true, beq_iff_eq]
  exact ⟨fun ⟨⟨hproperty, hoperator⟩, hvalue⟩ => ⟨hproperty, hoperator, hvalue⟩,
    fun h => ⟨⟨h.property, h.operator⟩, h.value⟩⟩

namespace Query

/-- All values in the conditions are well formed. -/
def WellFormed (q : Query) : Prop :=
  ∀ f ∈ q.filters, f.value.WellFormed

theorem isEqv_filters {fs gs : List Filter} {vs ws : List Wire.PropertyFilter}
    (hfs : List.Forall₂ (Filter.Compiles project) fs vs)
    (hgs : List.Forall₂ (Filter.Compiles project) gs ws)
    (hfv : ∀ f ∈ fs, f.value.WellFormed) (hgv : ∀ g ∈ gs, g.value.WellFormed) :
    vs.isEqv ws (Wire.PropertyFilter.equal c) = true ↔ List.Forall₂ (Filter.AsksSame c) fs gs := by
  induction hfs generalizing gs ws with
  | nil => cases hgs <;> simp [List.isEqv]
  | cons hf _ ih =>
    cases hgs with
    | nil => simp [List.isEqv]
    | cons hg hgs =>
      obtain ⟨hfirst, hrest⟩ := List.forall_mem_cons.mp hfv
      obtain ⟨hfirst', hrest'⟩ := List.forall_mem_cons.mp hgv
      rw [List.isEqv, Bool.and_eq_true, List.forall₂_cons, hf.equal_iff hg hfirst hfirst',
        ih hgs hrest hrest']

/-- **The messages of two queries are equal exactly if they ask for the same.** -/
theorem Compiles.equal_iff {q r : Query} {m n : Wire.Query} (hq : Compiles project q m)
    (hr : Compiles project r n) (hqv : q.WellFormed) (hrv : r.WellFormed) :
    m.equal c n = true ↔ AsksSame c q r := by
  have hordering : m.order = n.order ↔ q.ordering = r.ordering := by
    rw [hq.ordering, hr.ordering]
    refine (List.map_injective_iff.mpr ?_).eq_iff
    rintro ⟨a, d⟩ ⟨b, e⟩ hab
    cases hab
    rfl
  have hoffset : m.offset = n.offset ↔ q.skip = r.skip := by
    rw [← Int32.toInt_inj, hq.offset, hr.offset, Int.ofNat_inj]
  have hlimit : m.limit = n.limit ↔ q.max? = r.max? := by
    rw [← (Option.map_injective fun _ _ => Int32.toInt_inj.mp).eq_iff, hq.limit, hr.limit]
    exact (Option.map_injective fun _ _ => Int.ofNat.inj).eq_iff
  have hfilters := isEqv_filters (c := c) hq.filters hr.filters hqv hrv
  simp only [Wire.Query.equal, Bool.and_eq_true, beq_iff_eq, hfilters, hordering, hoffset, hlimit,
    hq.kind, hr.kind, hq.projection, hr.projection, hq.distinct, hr.distinct, hq.cursor, hr.cursor,
    List.cons.injEq, and_true]
  constructor
  · rintro ⟨⟨⟨⟨⟨⟨⟨hkind, hprojection⟩, hfilters⟩, hordering⟩, hdistinct⟩, hcursor⟩, hskip⟩, hmax⟩
    exact ⟨hkind, hprojection, hfilters, hordering, hdistinct, hcursor, hskip, hmax⟩
  · intro h
    exact ⟨⟨⟨⟨⟨⟨⟨h.kind, h.projection⟩, h.filters⟩, h.ordering⟩, h.distinct⟩, h.cursor⟩, h.skip⟩,
      h.max⟩

/-! ### Queries made by chains of calls -/

/-- The value in the condition that a call adds is well formed. -/
def Builder.WellFormed (b : Builder) : Prop :=
  ∀ f ∈ b.condition?, f.value.WellFormed

theorem wellFormed_ofCalls {kind : String} {calls : List Builder} {q : Query}
    (hcalls : ∀ b ∈ calls, b.WellFormed) (h : ofCalls kind calls = .ok q) : q.WellFormed := by
  obtain ⟨first, hfirst, hbuild⟩ := bind_eq_ok h
  have hempty : first.filters = [] := by
    unfold make at hfirst
    split at hfirst
    · cases hfirst
    · obtain rfl := Except.ok.inj hfirst
      rfl
  rw [build_eq first (accepted_of_build hbuild)] at hbuild
  obtain rfl := Except.ok.inj hbuild
  intro f hf
  rw [after, hempty, List.nil_append] at hf
  obtain ⟨b, hb, hcondition⟩ := List.mem_filterMap.mp hf
  exact hcalls b hb f hcondition

/-! ### Compilation -/

/-- **Queries compile faithfully.** A query has no message exactly if a value of no variant occurs
in one of its conditions, which is refused as of a wrong type, or if its offset or its limit does
not fit into 32 bits with a sign, which is refused as a wrong value. The messages of two queries are
equal exactly if the queries ask for the same: kind, properties that are shown, conditions and
orderings in their order, properties with distinct results, cursor, offset and limit. All queries
that chains of calls make are among these. -/
theorem compile_faithful (project : String) :
    (∀ (kind : String) (calls : List Builder) (q : Query), (∀ b ∈ calls, b.WellFormed) →
      ofCalls kind calls = .ok q → q.WellFormed) ∧
    (∀ q : Query, (∃ e, q.compile project = .error e) ↔
      q.hasBare = true ∨ 2147483647 < q.skip ∨ ∃ n, q.max? = some n ∧ 2147483647 < n) ∧
    (∀ (q : Query) (e : Error), q.compile project = .error e ↔ q.Refused e) ∧
    ∀ (c : Comparison) (q r : Query) (m n : Wire.Query), q.WellFormed → r.WellFormed →
      q.compile project = .ok m → r.compile project = .ok n →
        (m.equal c n = true ↔ q.AsksSame c r) := by
  refine ⟨fun _ _ _ => wellFormed_ofCalls, fun q => ?_, fun _ _ => compile_eq_error_iff, ?_⟩
  · simp only [compile_eq_error_iff]
    exact exists_refused_iff
  · intro c q r m n hq hr hm hn
    exact (compile_eq_ok hm).equal_iff (compile_eq_ok hn) hq hr

/-- A query for the rooms that a value names. -/
def rooms (value : Value) (skip : Nat) (max? : Option Nat) : Query where
  kind := "Room"
  isEventual := false
  isKeysOnly := false
  skip := skip
  max? := max?
  partition := none
  projections := []
  distinct := []
  ordering := []
  filters := [⟨"booking", .equal, value⟩]
  cursor? := none

/-- A wrapper and the marks of a key leave no trace, a limit of zero is not the same as none, and an
offset of 2147483648 is refused. -/
theorem compile_faithful_rooms :
    (∃ m n, (rooms (.wrapped (.key bookingKey)) 0 none).compile "p" = .ok m ∧
      (rooms (.key bookingKey.unmarked) 0 none).compile "p" = .ok n ∧ m.equal .apart n = true) ∧
    (∃ m n, (rooms .null 0 none).compile "p" = .ok m ∧
      (rooms .null 0 (some 0)).compile "p" = .ok n ∧ ¬ m.equal .apart n = true) ∧
    ∃ e, (rooms .null 2147483648 none).compile "p" = .error e := by
  obtain ⟨hchains, hfails, -, hequal⟩ := compile_faithful "p"
  have hrooms {value : Value} (h : value.WellFormed) : (rooms value 0 none).WellFormed := by
    refine hchains "Room" [.filter ⟨"booking", .equal, value⟩] _ ?_ rfl
    refine List.forall_mem_singleton.mpr fun f hf => ?_
    obtain rfl := Option.some.inj hf
    exact h
  have hmarked : (rooms (.wrapped (.key bookingKey)) 0 none).WellFormed :=
    hrooms ⟨⟨by decide, by decide⟩, rfl, by decide⟩
  have hunmarked : (rooms (.key bookingKey.unmarked) 0 none).WellFormed :=
    hrooms ⟨⟨by decide, by decide⟩, rfl, by decide⟩
  have hnull : (rooms .null 0 none).WellFormed := hrooms trivial
  refine ⟨⟨_, _, rfl, rfl, ?_⟩, ⟨_, _, rfl, rfl, fun h => ?_⟩,
    (hfails _).mpr (.inr (.inl (by decide)))⟩
  · refine (hequal .apart _ _ _ _ hmarked hunmarked rfl rfl).mpr ?_
    exact ⟨rfl, rfl, .cons ⟨rfl, rfl, by decide⟩ .nil, rfl, rfl, rfl, rfl, rfl⟩
  · have hsame := (hequal .apart (rooms .null 0 none) (rooms .null 0 (some 0)) _ _ hnull hnull
      rfl rfl).mp h
    exact nomatch hsame.max

end Query

end EntityStore
