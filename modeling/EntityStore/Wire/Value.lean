import EntityStore.Wire.Key

/-!
# Values in messages

* `Value.encode` — the message for a value. Wrappers are left out, and the flag that keeps a value
  out of indexes is set on every node other than an array;
* `Wire.Value.decode` — the value of a message;
* `DateTime.encode`, `DateTime.decode` — date-times as seconds and nanoseconds.
-/

namespace EntityStore

/-! ### Date-times -/

/-- The content for a date-time. -/
def DateTime.encode (t : DateTime) : Wire.Content :=
  .timestamp (.ofInt t.seconds) (.ofInt (t.time.microsecond * 1000 : Nat))

theorem DateTime.micros_lt {nanos : Int} (h : 0 ≤ nanos ∧ nanos ≤ 999999999) :
    (nanos / 1000).toNat < 1000000 := by
  omega

/-- The date-time at a number of seconds and nanoseconds, rounded down to microseconds. -/
def DateTime.decode (seconds : Int) (nanos : Int) : Outcome DateTime :=
  if seconds < -62135596800 || 253402300799 < seconds then
    .error (.value (.timestampSeconds seconds))
  else if h : 0 ≤ nanos ∧ nanos ≤ 999999999 then
    match DateTime.ofSeconds? seconds ⟨(nanos / 1000).toNat, micros_lt h⟩ with
    | some t => .ok t
    | none => .error (.value (.timestampSeconds seconds))
  else .error (.value (.timestampNanos nanos))

/-! ### Encoding -/

/-- A value of a message without a meaning. -/
def Wire.Value.plain (content : Wire.Content) (excluded : Bool) : Wire.Value :=
  .mk content 0 excluded

namespace Value

variable (project : String) (excluded : Bool)

mutual

/-- The message for a value. A value without a variant has none. -/
def encode : Value → Outcome Wire.Value
  | bare => .error (.type .notEncodable)
  | null => .ok (.plain (.null 0) excluded)
  | wrapped v => encode v
  | boolean b => .ok (.plain (.boolean b) excluded)
  | integer n => .ok (.plain (.integer n) excluded)
  | double d => .ok (.plain (.double d) excluded)
  | timestamp t => .ok (.plain t.encode excluded)
  | key k => .ok (.plain (.key (k.encode project)) excluded)
  | string s => .ok (.plain (.string s) excluded)
  | blob b => .ok (.plain (.blob b) excluded)
  | geoPoint p => .ok (.plain (.geoPoint p) excluded)
  | entity fields => (encodeFields fields).map fun ps => .plain (.entity none ps) excluded
  | array items => (encodeItems items).map fun vs => .plain (.array vs) false

/-- The messages for properties. -/
def encodeFields : List (String × Value) → Outcome (List (String × Wire.Value))
  | [] => .ok []
  | (name, v) :: rest =>
    match encode v with
    | .error e => .error e
    | .ok w => (encodeFields rest).map ((name, w) :: ·)

/-- The messages for items. -/
def encodeItems : List Value → Outcome (List Wire.Value)
  | [] => .ok []
  | v :: rest =>
    match encode v with
    | .error e => .error e
    | .ok w => (encodeItems rest).map (w :: ·)

end

end Value

/-! ### Decoding -/

namespace Wire

mutual

/-- The value of a message. -/
def Value.decode : Wire.Value → Outcome EntityStore.Value
  | .mk content _ _ => content.decode

/-- The value of a content. -/
def Content.decode : Wire.Content → Outcome EntityStore.Value
  | .unset => .error (.decode .unsetValue)
  | .null _ => .ok .null
  | .boolean b => .ok (.boolean b)
  | .integer n => .ok (.integer n)
  | .double d => .ok (.double d)
  | .timestamp seconds nanos => (DateTime.decode seconds.toInt nanos.toInt).map .timestamp
  | .key k => k.decode.map .key
  | .string s => .ok (.string s)
  | .blob b => .ok (.blob b)
  | .geoPoint p => .ok (.geoPoint p)
  | .entity _ properties => (decodeFields properties).map .entity
  | .array items => (decodeItems items).map .array

/-- The values of properties. -/
def decodeFields : List (String × Wire.Value) → Outcome (List (String × EntityStore.Value))
  | [] => .ok []
  | (name, w) :: rest =>
    match w.decode with
    | .error e => .error e
    | .ok v => (decodeFields rest).map ((name, v) :: ·)

/-- The values of items. -/
def decodeItems : List Wire.Value → Outcome (List EntityStore.Value)
  | [] => .ok []
  | w :: rest =>
    match w.decode with
    | .error e => .error e
    | .ok v => (decodeItems rest).map (v :: ·)

end

end Wire

end EntityStore
