import EntityStore.Convert.Into
import EntityStore.Proofs.Calendar
import EntityStore.Proofs.Outcome
import EntityStore.Proofs.Wire.Value

/-!
# Date-times with a zone

A date-time with a zone names an instant. It is stored as the date-time in UTC of that instant, and
so as the same value and the same message as any other date-time that names it. The messages are
ordered as the instants are.

* `ZonedDateTime.exists_intoValue`, `ZonedDateTime.intoValue_eq_overflow_iff` — the value, and when
  there is none;
* `ZonedDateTime.intoValue_eq_of_instant_eq` — one instant has one value;
* `ZonedDateTime.StoredAs` — the value and the message of a date-time with a zone;
* `instants_kept` — what is stored, and in which order.
-/

namespace EntityStore

namespace DateTime

/-- The first second of the calendar. -/
def first : DateTime := ⟨⟨1, 1, 1, by decide, by decide, by decide⟩, .midnight⟩

/-- The last microsecond of the calendar. -/
def last : DateTime :=
  ⟨⟨9999, 12, 31, by decide, by decide, by decide⟩,
    ⟨23, 59, 59, 999999, by decide, by decide, by decide, by decide⟩⟩

theorem seconds_first : first.seconds = -62135596800 := by decide +kernel

theorem seconds_last : last.seconds = 253402300799 := by decide +kernel

/-- A date-time is determined by its instant. -/
theorem instant_inj {s t : DateTime} : s.instant = t.instant ↔ s = t := by
  refine ⟨fun h => ?_, congrArg instant⟩
  have hs := s.time.microsecond_lt
  have ht := t.time.microsecond_lt
  simp only [instant] at h
  have hseconds : s.seconds = t.seconds := by omega
  have hmicros : s.micros = t.micros :=
    Fin.ext (show s.time.microsecond = t.time.microsecond by omega)
  have hread := ofSeconds?_seconds s
  rw [hseconds, hmicros, ofSeconds?_seconds] at hread
  exact (Option.some.inj hread).symm

end DateTime

/-- A date-time with its offset from UTC, in seconds, of less than a day. -/
structure ZonedDateTime where
  civil : DateTime
  offset : Int
  offset_mem : -86400 < offset ∧ offset < 86400

namespace ZonedDateTime

/-- The object. -/
def native (z : ZonedDateTime) : Native := .dateTime z.civil (some z.offset)

/-- The seconds since 1970 in UTC. -/
def seconds (z : ZonedDateTime) : Int := z.civil.seconds - z.offset

/-- The microseconds since 1970 in UTC. -/
def instant (z : ZonedDateTime) : Int := z.seconds * 1000000 + z.civil.time.microsecond

/-- In UTC the date-time falls in the years 1 to 9999. -/
def IsInCalendar (z : ZonedDateTime) : Prop :=
  DateTime.first.seconds ≤ z.seconds ∧ z.seconds ≤ DateTime.last.seconds

variable (s : Schema)

/-- The message of a date-time with a zone. -/
def store (project : String) (excluded : Bool) (z : ZonedDateTime) : Outcome Wire.Value :=
  intoValue s z.native >>= fun v => v.encode project excluded

/-- The date-time without a zone `u` is the value of `z`, and is read back from the message of `z`,
in which the seconds are those of `z` in UTC and the nanoseconds are its microseconds. -/
structure StoredAs (project : String) (excluded : Bool) (z : ZonedDateTime) (u : DateTime)
    (seconds : Int64) (nanos : Int32) : Prop where
  value : intoValue s z.native = .ok (.timestamp u)
  message : z.store s project excluded = .ok (.plain (.timestamp seconds nanos) excluded)
  decoded : (Wire.Value.plain (.timestamp seconds nanos) excluded).decode = .ok (.timestamp u)
  instant : u.instant = z.instant
  seconds_eq : seconds.toInt = z.civil.seconds - z.offset
  nanos_eq : nanos.toInt = 1000 * z.civil.time.microsecond

variable {s} {project : String} {excluded : Bool} {y z : ZonedDateTime}

/-- Equal instants have equal seconds and microseconds. -/
theorem seconds_eq_of_instant_eq (h : y.instant = z.instant) :
    y.seconds = z.seconds ∧ y.civil.time.microsecond = z.civil.time.microsecond := by
  have hy := y.civil.time.microsecond_lt
  have hz := z.civil.time.microsecond_lt
  simp only [instant] at h
  omega

theorem isInCalendar_iff :
    z.IsInCalendar ↔ -62135596800 ≤ z.seconds ∧ z.seconds ≤ 253402300799 := by
  rw [IsInCalendar, DateTime.seconds_first, DateTime.seconds_last]

/-! ### The value -/

/-- In the calendar, the value is the date-time that stands at the same instant in UTC. -/
theorem exists_intoValue (h : z.IsInCalendar) :
    ∃ u : DateTime, intoValue s z.native = .ok (.timestamp u) ∧ u.seconds = z.seconds ∧
      u.time.microsecond = z.civil.time.microsecond := by
  obtain ⟨hlower, hupper⟩ := isInCalendar_iff.mp h
  obtain ⟨u, hu, hseconds, hmicros⟩ := DateTime.exists_ofSeconds? hlower hupper z.civil.micros
  have hshift : z.civil.shift? (-z.offset) = some u := by
    rw [DateTime.shift?, ← Int.sub_eq_add_neg]
    exact hu
  refine ⟨u, ?_, hseconds, congrArg Fin.val hmicros⟩
  rw [native, intoValue, DateTime.intoValue, hshift]

/-- Outside of the calendar there is no value. -/
theorem intoValue_eq_overflow (h : ¬ z.IsInCalendar) :
    intoValue s z.native = .error .overflow := by
  rw [isInCalendar_iff] at h
  have hshift : z.civil.shift? (-z.offset) = none := by
    rw [DateTime.shift?, ← Int.sub_eq_add_neg]
    exact DateTime.ofSeconds?_eq_none (show z.seconds < _ ∨ _ < z.seconds by omega) _
  rw [native, intoValue, DateTime.intoValue, hshift]

theorem intoValue_eq_overflow_iff : intoValue s z.native = .error .overflow ↔ ¬ z.IsInCalendar := by
  refine ⟨fun h hin => ?_, intoValue_eq_overflow⟩
  obtain ⟨u, hu, -⟩ := exists_intoValue (s := s) hin
  rw [hu] at h
  cases h

/-- **One instant, one value.** -/
theorem intoValue_eq_of_instant_eq (h : y.instant = z.instant) :
    intoValue s y.native = intoValue s z.native := by
  obtain ⟨hseconds, hmicros⟩ := seconds_eq_of_instant_eq h
  have hcalendar : y.IsInCalendar ↔ z.IsInCalendar := by
    rw [IsInCalendar, IsInCalendar, hseconds]
  by_cases hin : z.IsInCalendar
  · obtain ⟨t, ht, htseconds, htmicros⟩ := exists_intoValue (s := s) (hcalendar.mpr hin)
    obtain ⟨u, hu, huseconds, humicros⟩ := exists_intoValue (s := s) hin
    have htu : t = u := by
      rw [← DateTime.instant_inj, DateTime.instant, DateTime.instant]
      rw [htseconds, huseconds, htmicros, humicros, hseconds, hmicros]
    rw [ht, hu, htu]
  · rw [intoValue_eq_overflow hin, intoValue_eq_overflow (mt hcalendar.mp hin)]

/-! ### The message -/

/-- **What is stored** of a date-time in the calendar. -/
theorem exists_storedAs (h : z.IsInCalendar) :
    ∃ u seconds nanos, z.StoredAs s project excluded u seconds nanos := by
  obtain ⟨u, hvalue, hseconds, hmicros⟩ := exists_intoValue (s := s) h
  have hlower := u.seconds_lower
  have hupper := u.seconds_upper
  have hmicro := u.time.microsecond_lt
  refine ⟨u, .ofInt u.seconds, .ofInt (u.time.microsecond * 1000 : Nat), hvalue, ?_,
    u.decode_encode, ?_, ?_, ?_⟩
  · rw [store, hvalue]
    rfl
  · rw [DateTime.instant, instant, hseconds, hmicros]
  · rw [Int64.toInt_ofInt_of_le (by omega) (by omega), hseconds, seconds]
  · rw [Int32.toInt_ofInt_of_le (by omega) (by omega), hmicros, Int.natCast_mul, Int.mul_comm]
    rfl

namespace StoredAs

variable {t u : DateTime} {a c : Int64} {b d : Int32}

/-- Messages are ordered as the instants are. -/
theorem message_lt_iff (hy : y.StoredAs s project excluded t a b)
    (hz : z.StoredAs s project excluded u c d) :
    y.instant < z.instant ↔ [a.toInt, b.toInt] < [c.toInt, d.toInt] := by
  have hymicro := y.civil.time.microsecond_lt
  have hzmicro := z.civil.time.microsecond_lt
  rw [hy.seconds_eq, hy.nanos_eq, hz.seconds_eq, hz.nanos_eq]
  simp only [List.cons_lt_cons_iff, List.not_lt_nil, and_false, or_false,
    ZonedDateTime.instant, seconds]
  omega

end StoredAs

end ZonedDateTime

/-! ### Every date-time with a zone -/

/-- **Instants are kept.** Every date-time whose instant is in the calendar has a value and a
message of its seconds and microseconds in UTC, and exactly the others are refused as an overflow.
Date-times of one instant have the same value and the same message. Of two instants, the earlier one
has the message with the smaller seconds, or with the same ones and the smaller nanoseconds, and the
value with the smaller fields. -/
theorem instants_kept (s : Schema) (project : String) (excluded : Bool) (z : ZonedDateTime) :
    (z.IsInCalendar → ∃ u seconds nanos, z.StoredAs s project excluded u seconds nanos) ∧
    (intoValue s z.native = .error .overflow ↔ ¬ z.IsInCalendar) ∧
    ∀ y : ZonedDateTime,
      (y.instant = z.instant → intoValue s y.native = intoValue s z.native ∧
        y.store s project excluded = z.store s project excluded) ∧
      ∀ t u a b c d, y.StoredAs s project excluded t a b → z.StoredAs s project excluded u c d →
        (y.instant < z.instant ↔ [a.toInt, b.toInt] < [c.toInt, d.toInt]) ∧
        (y.instant < z.instant ↔ t.fields < u.fields) := by
  refine ⟨ZonedDateTime.exists_storedAs, ZonedDateTime.intoValue_eq_overflow_iff, ?_⟩
  refine fun y => ⟨fun h => ?_, ?_⟩
  · have hvalue := ZonedDateTime.intoValue_eq_of_instant_eq (s := s) h
    refine ⟨hvalue, ?_⟩
    rw [ZonedDateTime.store, ZonedDateTime.store, hvalue]
  · intro t u a b c d hy hz
    refine ⟨hy.message_lt_iff hz, ?_⟩
    rw [← hy.instant, ← hz.instant]
    exact DateTime.instant_lt_iff t u

/-- The last evening of a February with a leap day, five hours behind UTC. -/
def leapDay : ZonedDateTime :=
  ⟨⟨⟨2024, 2, 29, by decide, by decide, by decide⟩,
    ⟨23, 30, 15, 250000, by decide, by decide, by decide, by decide⟩⟩, -18000, by decide⟩

/-- The same instant, an hour ahead of UTC: it falls on the next morning. -/
def nextDay : ZonedDateTime :=
  ⟨⟨⟨2024, 3, 1, by decide, by decide, by decide⟩,
    ⟨5, 30, 15, 250000, by decide, by decide, by decide, by decide⟩⟩, 3600, by decide⟩

/-- The last microsecond before 1970, in UTC. -/
def beforeEpoch : ZonedDateTime :=
  ⟨⟨⟨1969, 12, 31, by decide, by decide, by decide⟩,
    ⟨23, 59, 59, 999999, by decide, by decide, by decide, by decide⟩⟩, 0, by decide⟩

/-- The start of the calendar ahead of UTC falls before the calendar. -/
def tooEarly : ZonedDateTime := ⟨.first, 1, by decide⟩

theorem instants_kept_leapDay :
    (leapDay.IsInCalendar ∧
      ∃ u seconds nanos, leapDay.StoredAs [] "p" false u seconds nanos) ∧
    intoValue [] tooEarly.native = .error .overflow ∧
    (nextDay.instant = leapDay.instant ∧
      nextDay.store [] "p" false = leapDay.store [] "p" false) ∧
    ∃ t u a b c d, beforeEpoch.StoredAs [] "p" false t a b ∧ leapDay.StoredAs [] "p" false u c d ∧
      [a.toInt, b.toInt] < [c.toInt, d.toInt] := by
  have hleap : leapDay.IsInCalendar := ZonedDateTime.isInCalendar_iff.mpr (by decide +kernel)
  have hepoch : beforeEpoch.IsInCalendar := ZonedDateTime.isInCalendar_iff.mpr (by decide +kernel)
  have hearly : ¬ tooEarly.IsInCalendar :=
    mt ZonedDateTime.isInCalendar_iff.mp (by decide +kernel)
  have hsame : nextDay.instant = leapDay.instant := by decide +kernel
  have hbefore : beforeEpoch.instant < leapDay.instant := by decide +kernel
  obtain ⟨hstored, -, hother⟩ := instants_kept [] "p" false leapDay
  obtain ⟨u, c, d, hu⟩ := hstored hleap
  obtain ⟨t, a, b, ht⟩ := (instants_kept [] "p" false beforeEpoch).1 hepoch
  refine ⟨⟨hleap, u, c, d, hu⟩, ?_, ⟨hsame, ((hother nextDay).1 hsame).2⟩, ?_⟩
  · exact (instants_kept [] "p" false tooEarly).2.1.mpr hearly
  · exact ⟨t, u, a, b, c, d, ht, hu, ((hother beforeEpoch).2 t u a b c d ht hu).1.mp hbefore⟩

end EntityStore
