import EntityStore.Proofs.Mutation
import EntityStore.Proofs.Wire.Normal

/-!
# What keeps a message from being read

A message is read node by node, up to the first node that is faulty. Faults in the shape of a
message are failures to decode it. A timestamp outside of the calendar is refused as a value, and
this is not reported as a failure to decode.

* `Wire.Content.IsFaulty` — what can be wrong with a node by itself;
* `Wire.Value.failsAtFirst_decode`, `Wire.Entity.failsAtFirst_decode` — the first faulty node
  decides;
* `Wire.StraysFirst`, `Wire.Entity.StraysFirst` — messages whose first fault is a timestamp;
* `Wire.ReadsBut` — outcomes whose errors are failures to decode, but for some that stray;
* `Wire.Value.reads_decode`, `Wire.Entity.reads_mapM`, `Mutation.reads_keys` — messages, lists of
  entities and the results of commits.
-/

namespace EntityStore

namespace Wire

open Outcome

/-! ### Faults of a node -/

/-- What is wrong with a node by itself: no variant is set, a key has a step without a kind or no
step at all, or a timestamp lies outside of the calendar. -/
inductive Content.IsFaulty : Content → Error → Prop
  | unset : IsFaulty .unset (.decode .unsetValue)
  | kindless {k : Key} (h : ∃ e ∈ k.path, e.kind = "") : IsFaulty (.key k) (.decode .kindlessKey)
  | pathless {k : Key} (h : k.path = []) : IsFaulty (.key k) (.decode .emptyKeyPath)
  | seconds {seconds : Int64} {nanos : Int32}
      (h : seconds.toInt < -62135596800 ∨ 253402300799 < seconds.toInt) :
      IsFaulty (.timestamp seconds nanos) (.value (.timestampSeconds seconds.toInt))
  | nanos {seconds : Int64} {nanos : Int32}
      (hseconds : -62135596800 ≤ seconds.toInt ∧ seconds.toInt ≤ 253402300799)
      (h : nanos.toInt < 0 ∨ 999999999 < nanos.toInt) :
      IsFaulty (.timestamp seconds nanos) (.value (.timestampNanos nanos.toInt))

/-- **Keys are refused for the faults of their path.** -/
theorem Key.decode_eq_error_iff_isFaulty (k : Key) (e : Error) :
    k.decode = .error e ↔ (Content.key k).IsFaulty e := by
  by_cases hkindless : ∃ e ∈ k.path, e.kind = ""
  · have hdecode : k.decode = .error (.decode .kindlessKey) := by
      rw [decode, decodeBelow_of_kindless _ _ hkindless]
      rfl
    rw [hdecode]
    constructor
    · intro h
      obtain rfl := Except.error.inj h
      exact .kindless hkindless
    · rintro (_ | _ | hpath)
      · rfl
      · obtain ⟨step, hstep, -⟩ := hkindless
        rw [hpath] at hstep
        cases hstep
  · by_cases hpath : k.path = []
    · have hdecode : k.decode = .error (.decode .emptyKeyPath) := by
        rw [decode, hpath]
        rfl
      rw [hdecode]
      constructor
      · intro h
        obtain rfl := Except.error.inj h
        exact .pathless hpath
      · rintro (_ | hstep | _)
        · exact absurd hstep hkindless
        · rfl
    · obtain ⟨key, hread, -⟩ := exists_decode hpath fun step hstep hkind =>
        hkindless ⟨step, hstep, hkind⟩
      rw [hread]
      constructor
      · intro h
        cases h
      · rintro (_ | hstep | hempty)
        · exact absurd hstep hkindless
        · exact absurd hempty hpath

/-- **Timestamps are refused outside of the calendar**, for their seconds first. -/
theorem decode_timestamp_eq_error_iff (seconds : Int64) (nanos : Int32) (e : Error) :
    DateTime.decode seconds.toInt nanos.toInt = .error e ↔
      (Content.timestamp seconds nanos).IsFaulty e := by
  by_cases hseconds : -62135596800 ≤ seconds.toInt ∧ seconds.toInt ≤ 253402300799
  · by_cases hnanos : 0 ≤ nanos.toInt ∧ nanos.toInt ≤ 999999999
    · obtain ⟨t, hread, -⟩ := DateTime.exists_decode hseconds hnanos
      rw [hread]
      refine ⟨nofun, ?_⟩
      rintro (_ | _ | _ | hout | ⟨-, hout⟩) <;> omega
    · have hrefused : DateTime.decode seconds.toInt nanos.toInt =
          .error (.value (.timestampNanos nanos.toInt)) := by
        rw [DateTime.decode, dif_neg hnanos, if_neg]
        rw [Bool.or_eq_true, decide_eq_true_eq, decide_eq_true_eq]
        omega
      rw [hrefused]
      constructor
      · intro h
        obtain rfl := Except.error.inj h
        exact .nanos hseconds (by omega)
      · rintro (_ | _ | _ | hout | -)
        · omega
        · rfl
  · have hrefused : DateTime.decode seconds.toInt nanos.toInt =
        .error (.value (.timestampSeconds seconds.toInt)) := by
      rw [DateTime.decode, if_pos]
      rw [Bool.or_eq_true, decide_eq_true_eq, decide_eq_true_eq]
      omega
    rw [hrefused]
    constructor
    · intro h
      obtain rfl := Except.error.inj h
      exact .seconds (by omega)
    · rintro (_ | _ | _ | - | hin)
      · rfl
      · exact absurd hin hseconds

/-- A fault is one of decoding, unless the node is a timestamp. -/
theorem Content.IsFaulty.cases_error {content : Content} {e : Error} (h : content.IsFaulty e) :
    (∃ fault, e = .decode fault) ∨
      ∃ seconds nanos f, content = .timestamp seconds nanos ∧ e = .value f := by
  cases h with
  | unset | kindless | pathless => exact .inl ⟨_, rfl⟩
  | seconds | nanos => exact .inr ⟨_, _, _, rfl, rfl⟩

/-- The error of a node by itself; records and arrays have none. -/
def Content.fault? : Content → Option Error
  | .entity _ _ | .array _ => none
  | content => error? content.decode

theorem Content.fault?_eq_some_iff (content : Content) (e : Error) :
    content.fault? = some e ↔ content.IsFaulty e := by
  cases content with
  | unset =>
    constructor
    · intro h
      obtain rfl := Option.some.inj h
      exact .unset
    · rintro ⟨⟩
      rfl
  | key k =>
    rw [← Key.decode_eq_error_iff_isFaulty, ← error?_eq_some_iff,
      ← error?_map k.decode EntityStore.Value.key]
    rfl
  | timestamp seconds nanos =>
    rw [← decode_timestamp_eq_error_iff, ← error?_eq_some_iff,
      ← error?_map (DateTime.decode _ _) EntityStore.Value.timestamp]
    rfl
  | null | boolean | integer | double | string | blob | geoPoint | entity | array =>
    exact ⟨nofun, nofun⟩

/-! ### The first fault of a message -/

mutual

/-- **Reading fails with the first fault of a message.** The induction is on the message; its nodes
are read in the order in which they are listed. -/
theorem Value.error?_decode :
    ∀ w : Value, error? w.decode = w.nodes.findSome? (·.content.fault?)
  | .mk content meaning excluded => by
    rw [Value.decode, Value.nodes, List.findSome?_cons, content.error?_decode, Value.content]
    cases content.fault? <;> rfl

theorem Content.error?_decode :
    ∀ content : Content, error? content.decode =
      content.fault?.or (content.nodes.findSome? (·.content.fault?))
  | .entity _ properties => by
    rw [Content.decode, error?_map]
    exact error?_decodeFields properties
  | .array items => by
    rw [Content.decode, error?_map]
    exact error?_decodeItems items
  | .unset | .null _ | .boolean _ | .integer _ | .double _ | .timestamp _ _ | .key _ | .string _
  | .blob _ | .geoPoint _ => Option.or_none.symm

theorem error?_decodeFields :
    ∀ ps : List (String × Value), error? (decodeFields ps) =
      (fieldNodes ps).findSome? (·.content.fault?)
  | [] => rfl
  | (name, w) :: rest => by
    rw [decodeFields_cons, error?_both, fieldNodes, List.findSome?_append, w.error?_decode,
      error?_decodeFields rest]

theorem error?_decodeItems :
    ∀ ws : List Value, error? (decodeItems ws) = (itemNodes ws).findSome? (·.content.fault?)
  | [] => rfl
  | w :: rest => by
    rw [decodeItems_cons, error?_both, itemNodes, List.findSome?_append, w.error?_decode,
      error?_decodeItems rest]

end

/-- A message is read unless a node of it is faulty, and its first faulty node tells the error. -/
theorem Value.failsAtFirst_decode (w : Value) :
    FailsAtFirst w.nodes (fun node => node.content.IsFaulty) w.decode :=
  failsAtFirst (fun node => node.content.fault?_eq_some_iff) w.error?_decode

/-- What is read of an entity: the nodes of its properties, and its key as the last one. -/
def Entity.nodes (e : Entity) : List Value :=
  fieldNodes e.properties ++ (e.key.map fun k => Value.plain (.key k) false).toList

/-- The same for an entity, which has to have a key. -/
theorem Entity.failsAtFirst_decode {e : Entity} (h : e.key ≠ none) :
    FailsAtFirst e.nodes (fun node => node.content.IsFaulty) e.decode := by
  refine failsAtFirst (fun node => node.content.fault?_eq_some_iff) ?_
  cases hkey : e.key with
  | none => exact absurd hkey h
  | some k =>
    have hlast : ([Value.plain (.key k) false].findSome? (·.content.fault?)) = error? k.decode := by
      rw [List.findSome?_singleton]
      exact error?_map k.decode EntityStore.Value.key
    have hdecode : e.decode =
        (decodeFields e.properties).bind fun ps => k.decode.map (EntityStore.Entity.mk · ps) := by
      rw [decode, hkey]
      exact congrArg (Except.bind _) (funext fun ps => bind_pure_eq_map)
    rw [hdecode, error?_both, nodes, hkey, List.findSome?_append, error?_decodeFields]
    exact congrArg _ hlast.symm

/-! ### Faults that stray -/

/-- The first faulty node is a timestamp outside of the calendar. -/
def StraysFirst (nodes : List Value) (f : ValueFault) : Prop :=
  ∃ front node back seconds nanos, nodes = front ++ node :: back ∧
    (∀ n ∈ front, ∀ e, ¬ n.content.IsFaulty e) ∧ node.content = .timestamp seconds nanos ∧
    node.content.IsFaulty (.value f)

/-- The first thing that keeps an entity from being read is such a timestamp. -/
def Entity.StraysFirst (e : Entity) (f : ValueFault) : Prop :=
  e.key ≠ none ∧ Wire.StraysFirst e.nodes f

/-- The first entity of a list that is not read is kept from it by such a timestamp. -/
def Entity.StrayAmong (es : List Entity) (f : ValueFault) : Prop :=
  ∃ front e back, es = front ++ e :: back ∧ (∀ x ∈ front, ∃ y, x.decode = .ok y) ∧ e.StraysFirst f

/-- An outcome whose errors are failures to decode, but for those that stray, and for others that
have nothing to do with reading. -/
structure ReadsBut {α : Type} (stray : ValueFault → Prop) (other : Error → Prop)
    (x : Outcome α) : Prop where
  undecodable : ∀ e, x = .error e →
    (∃ fault, e = .decode fault) ∨ (∃ f, stray f ∧ e = .value f) ∨ other e
  strays : ∀ f, stray f → x = .error (.value f)

/-- An outcome of nothing but reading. -/
abbrev Reads {α : Type} (stray : ValueFault → Prop) (x : Outcome α) : Prop :=
  ReadsBut stray (fun _ => False) x

variable {α : Type}

theorem reads_of_failsAtFirst {nodes : List Value} {x : Outcome α}
    (h : FailsAtFirst nodes (fun node => node.content.IsFaulty) x) :
    Reads (StraysFirst nodes) x where
  undecodable := by
    intro e he
    obtain ⟨front, node, back, hsplit, hfront, hnode⟩ := (h.fails e).mp he
    rcases hnode.cases_error with hdecode | ⟨seconds, nanos, f, hcontent, rfl⟩
    · exact .inl hdecode
    · exact .inr (.inl
        ⟨f, ⟨front, node, back, seconds, nanos, hsplit, hfront, hcontent, hnode⟩, rfl⟩)
  strays := by
    rintro f ⟨front, node, back, -, -, hsplit, hfront, -, hnode⟩
    exact (h.fails _).mpr ⟨front, node, back, hsplit, hfront, hnode⟩

/-- Where nothing strays, every error is a failure to decode. -/
theorem reads_of_decode {x : Outcome α} (h : ∀ e, x = .error e → ∃ fault, e = .decode fault) :
    Reads (fun _ => False) x :=
  ⟨fun e he => .inl (h e he), fun _ => False.elim⟩

theorem Value.reads_decode (w : Value) : Reads (StraysFirst w.nodes) w.decode :=
  reads_of_failsAtFirst w.failsAtFirst_decode

/-- Whatever keeps a key from being read is a failure to decode it. -/
theorem Key.exists_of_decode_error {k : Key} {e : Error} (h : k.decode = .error e) :
    ∃ fault, e = .decode fault := by
  cases (k.decode_eq_error_iff_isFaulty e).mp h <;> exact ⟨_, rfl⟩

theorem Key.reads_decode (k : Key) : Reads (fun _ => False) k.decode :=
  reads_of_decode fun _ => Key.exists_of_decode_error

theorem Entity.reads_decode (e : Entity) : Reads e.StraysFirst e.decode := by
  by_cases hkey : e.key = none
  · have hdecode : e.decode = .error (.decode .entityWithoutKey) := by
      rw [decode, hkey]
    constructor
    · intro error herror
      rw [hdecode] at herror
      exact .inl ⟨_, (Except.error.inj herror).symm⟩
    · intro f hstray
      exact absurd hkey hstray.1
  · have hreads := reads_of_failsAtFirst (Entity.failsAtFirst_decode hkey)
    constructor
    · intro error herror
      refine (hreads.undecodable error herror).imp_right (.imp_left ?_)
      rintro ⟨f, hstray, rfl⟩
      exact ⟨f, ⟨hkey, hstray⟩, rfl⟩
    · intro f hstray
      exact hreads.strays f hstray.2

/-- A list of entities is read up to the first one that is not. -/
theorem Entity.reads_mapM (es : List Entity) : Reads (StrayAmong es) (es.mapM Entity.decode) where
  undecodable := by
    intro error herror
    obtain ⟨e, he, hfails⟩ := exists_of_mapM_error herror
    obtain ⟨front, first, back, firstError, rfl, hfront, hfirst⟩ :=
      exists_first_error ⟨e, he, error, hfails⟩
    obtain rfl : firstError = error :=
      Except.error.inj ((mapM_of_first_error hfront hfirst).symm.trans herror)
    refine (first.reads_decode.undecodable _ hfirst).imp_right (.imp_left ?_)
    rintro ⟨f, hstray, rfl⟩
    exact ⟨f, ⟨front, first, back, rfl, hfront, hstray⟩, rfl⟩
  strays := by
    rintro f ⟨front, e, back, rfl, hfront, hstray⟩
    exact mapM_of_first_error hfront (e.reads_decode.strays f hstray)

end Wire

/-- Whatever keeps the keys of a commit from being read is a failure to decode them. -/
theorem Mutation.reads_keys (r : Wire.CommitResponse) (kinds : List MutationKind) :
    Wire.Reads (fun _ => False) (keys r kinds) := by
  refine Wire.reads_of_decode fun e he => ?_
  rw [keys_eq] at he
  split at he
  · obtain ⟨i, -, hi⟩ := exists_of_mapM_error he
    unfold Wire.CommitResponse.keyAt at hi
    split at hi
    · cases hi
    · exact Wire.Key.exists_of_decode_error (map_eq_error hi)
  · exact ⟨_, (Except.error.inj he).symm⟩

end EntityStore
