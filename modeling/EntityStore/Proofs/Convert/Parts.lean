import EntityStore.Convert.From
import EntityStore.Convert.Into
import EntityStore.Proofs.Association

/-!
# Conversion part by part

Objects with parts are converted part by part, and so are their values. Each lemma here takes rows
of an object and the value it is stored as, and says what the function that runs over the parts
gives when every row is stored or read back.

* `exists_rows` — the rows of objects that can all be stored;
* `intoItems_rows`, `intoEntries_rows`, `intoFields_rows` — the objects are stored;
* `readAll_cons`, `readEach_cons`, `readProperties_cons`, `readFields_cons` — parts are read one by
  one;
* `readAll_rows`, `readEach_rows`, `readProperties_rows`, `readFields_rows` — the values are read.
-/

namespace EntityStore

variable {α : Type} {s : Schema}

/-- If every object of a list has a value, the list has rows of objects and values. -/
theorem exists_rows {R : α → Value → Prop} {as : List α} (h : ∀ a ∈ as, ∃ v, R a v) :
    ∃ rows : List (α × Value), rows.map Prod.fst = as ∧ ∀ r ∈ rows, R r.1 r.2 := by
  induction as with
  | nil => exact ⟨[], rfl, nofun⟩
  | cons a as ih =>
    obtain ⟨v, hv⟩ := h a List.mem_cons_self
    obtain ⟨rows, hrows, hall⟩ := ih fun b hb => h b (List.mem_cons_of_mem a hb)
    refine ⟨(a, v) :: rows, by rw [List.map_cons, hrows], ?_⟩
    intro r hr
    rcases List.mem_cons.mp hr with rfl | hr
    · exact hv
    · exact hall r hr

/-- The rows of two lists side by side have the lists in their columns. -/
theorem columns_of_zip {β : Type} {as : List α} {bs : List β} {rows : List ((α × β) × Value)}
    (hlen : as.length = bs.length) (hzip : rows.map Prod.fst = as.zip bs) :
    as = rows.map (fun r => r.1.1) ∧ bs = rows.map fun r => r.1.2 := by
  have hfst := List.map_fst_zip (Nat.le_of_eq hlen)
  have hsnd := List.map_snd_zip (Nat.le_of_eq hlen.symm)
  rw [← hzip, List.map_map] at hfst hsnd
  exact ⟨hfst.symm, hsnd.symm⟩

/-- Rows with distinct names are found under their names. -/
theorem lookup_rows {β : Type} (name : α → String) (entry : α → β) {rows : List α}
    (hnodup : (rows.map name).Nodup) {r : α} (hr : r ∈ rows) :
    (rows.map fun r => (name r, entry r)).lookup (name r) = some (entry r) := by
  refine lookup_of_mem ?_ (List.mem_map_of_mem hr)
  rw [List.map_map]
  exact hnodup

/-- A step that succeeds on every member of a list succeeds on the list. -/
theorem mapM_rows {β γ : Type} {f : β → Outcome γ} {g : α → β} (k : α → γ) {rows : List α}
    (h : ∀ r ∈ rows, f (g r) = .ok (k r)) : (rows.map g).mapM f = .ok (rows.map k) := by
  induction rows with
  | nil => rfl
  | cons r rest ih =>
    rw [List.map_cons, List.mapM_cons, h r List.mem_cons_self,
      ih fun q hq => h q (List.mem_cons_of_mem r hq)]
    rfl

/-! ### Into values -/

theorem intoItems_rows (object : α → Native) {rows : List (α × Value)}
    (h : ∀ r ∈ rows, intoValue s (object r.1) = .ok r.2) :
    intoItems s (rows.map fun r => object r.1) = .ok (rows.map Prod.snd) := by
  induction rows with
  | nil => rfl
  | cons r rest ih =>
    rw [List.map_cons, intoItems, h r List.mem_cons_self,
      ih fun q hq => h q (List.mem_cons_of_mem r hq)]
    rfl

theorem intoEntries_rows {rows : List ((String × Native) × Value)}
    (h : ∀ r ∈ rows, intoValue s r.1.2 = .ok r.2) :
    intoEntries s (rows.map fun r => (.string r.1.1, r.1.2)) =
      .ok (rows.map fun r => (r.1.1, r.2)) := by
  induction rows with
  | nil => rfl
  | cons r rest ih =>
    rw [List.map_cons, intoEntries, h r List.mem_cons_self,
      ih fun q hq => h q (List.mem_cons_of_mem r hq)]
    rfl

theorem intoFields_rows (name : α → String) (object : α → Native) {rows : List (α × Value)}
    (h : ∀ r ∈ rows, intoValue s (object r.1) = .ok r.2) :
    intoFields s (rows.map fun r => (name r.1, object r.1)) =
      rows.map fun r => (name r.1, .ok r.2) := by
  induction rows with
  | nil => rfl
  | cons r rest ih =>
    rw [List.map_cons, intoFields, h r List.mem_cons_self,
      ih fun q hq => h q (List.mem_cons_of_mem r hq)]
    rfl

/-! ### From values -/

/-- A value that is no option is read as an optional form just as the form alone. -/
theorem reader_optional {v : Value} {f : Form} (h : v.variant? ≠ some .option) :
    reader s v (.optional f) = reader s v (.plain f) := by
  cases v with
  | null => exact absurd rfl h
  | wrapped v => exact absurd rfl h
  | _ => rfl

theorem itemReaders_map (vs : List Value) : itemReaders s vs = vs.map (reader s) := by
  induction vs with
  | nil => rfl
  | cons v rest ih => rw [itemReaders, ih, List.map_cons]

theorem readers_map (properties : List (String × Value)) :
    readers s properties = properties.map fun p => (p.1, reader s p.2) := by
  induction properties with
  | nil => rfl
  | cons p rest ih => rw [readers, ih, List.map_cons]

/-- Items are read one by one. -/
theorem readAll_cons (read : Reader) (rest : List Reader) (t : Target) :
    readAll (read :: rest) t = (read t).bind fun n => (readAll rest t).map (n :: ·) := by
  rw [readAll]
  cases read t <;> rfl

theorem readEach_cons (read : Reader) (rest : List Reader) (t : Target) (ts : List Target) :
    readEach (read :: rest) (t :: ts) = (read t).bind fun n => (readEach rest ts).map (n :: ·) := by
  rw [readEach]
  cases read t <;> rfl

/-- Properties are read one by one. -/
theorem readProperties_cons (name : String) (read : Reader) (rest : List (String × Reader))
    (t : Target) :
    readProperties ((name, read) :: rest) t =
      (read t).bind fun n => (readProperties rest t).map ((name, n) :: ·) := by
  rw [readProperties]
  cases read t <;> rfl

/-- A field is read from its property before the others are. -/
theorem readFields_cons {f : RecordField} {rest : List RecordField}
    {readers : List (String × Reader)} {read : Reader}
    (h : readers.lookup f.wireName = some read) :
    Schema.readFields (f :: rest) readers = (read f.type).bind fun n =>
      (Schema.readFields rest (unassign f.wireName readers)).map ((f.name, n) :: ·) := by
  rw [Schema.readFields, h]
  dsimp only
  cases read f.type <;> rfl

theorem readAll_rows {t : Target} {rows : List (Native × Value)}
    (h : ∀ r ∈ rows, reader s r.2 t = .ok r.1) :
    readAll (itemReaders s (rows.map Prod.snd)) t = .ok (rows.map Prod.fst) := by
  induction rows with
  | nil => rfl
  | cons r rest ih =>
    rw [List.map_cons, itemReaders, readAll, h r List.mem_cons_self,
      ih fun q hq => h q (List.mem_cons_of_mem r hq)]
    rfl

theorem readEach_rows {rows : List ((Target × Native) × Value)}
    (h : ∀ r ∈ rows, reader s r.2 r.1.1 = .ok r.1.2) :
    readEach (itemReaders s (rows.map Prod.snd)) (rows.map fun r => r.1.1) =
      .ok (rows.map fun r => r.1.2) := by
  induction rows with
  | nil => rfl
  | cons r rest ih =>
    rw [List.map_cons, List.map_cons, itemReaders, readEach, h r List.mem_cons_self,
      ih fun q hq => h q (List.mem_cons_of_mem r hq)]
    rfl

theorem readProperties_rows {t : Target} {rows : List ((String × Native) × Value)}
    (h : ∀ r ∈ rows, reader s r.2 t = .ok r.1.2) :
    readProperties (readers s (rows.map fun r => (r.1.1, r.2))) t = .ok (rows.map Prod.fst) := by
  induction rows with
  | nil => rfl
  | cons r rest ih =>
    rw [List.map_cons, readers, readProperties, h r List.mem_cons_self,
      ih fun q hq => h q (List.mem_cons_of_mem r hq)]
    rfl

/-- Fields are read one after the other, each from the property at the head of those that remain,
if no two of them share a property. -/
theorem readFields_rows (field : α → RecordField) (object : α → Native) {rows : List (α × Value)}
    (hnodup : (rows.map fun r => (field r.1).wireName).Nodup)
    (h : ∀ r ∈ rows, reader s r.2 (field r.1).type = .ok (object r.1)) :
    Schema.readFields (rows.map fun r => field r.1)
        (readers s (rows.map fun r => ((field r.1).wireName, r.2))) =
      .ok (rows.map fun r => ((field r.1).name, object r.1)) := by
  induction rows with
  | nil => rfl
  | cons r rest ih =>
    have hhead : (((field r.1).wireName, reader s r.2) ::
        readers s (rest.map fun r => ((field r.1).wireName, r.2))).lookup (field r.1).wireName =
        some (reader s r.2) := List.lookup_cons_self
    have htail : unassign (field r.1).wireName (((field r.1).wireName, reader s r.2) ::
        readers s (rest.map fun r => ((field r.1).wireName, r.2))) =
        readers s (rest.map fun r => ((field r.1).wireName, r.2)) := by
      refine unassign_head ?_
      rw [readers_map, List.map_cons, List.map_map, List.map_map]
      exact hnodup
    rw [List.map_cons, List.map_cons, readers, Schema.readFields, hhead]
    simp only [h r List.mem_cons_self, htail]
    rw [ih (List.nodup_cons.mp hnodup).2 fun q hq => h q (List.mem_cons_of_mem r hq)]
    rfl

end EntityStore
