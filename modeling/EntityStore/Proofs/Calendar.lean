import EntityStore.Calendar

/-!
# The calendar and its line of days

Dates stand for days on one line and date-times for seconds on one line, and both ways of writing
them carry the same information.

* `monthOf_add` — counting on through the months of a year finds the month of a day;
* `yearOf_add` — the cycles of 400, 100, 4 and 1 years find the year of a day;
* `Date.ofOrdinal?_ordinal` — the date of the ordinal of a date is that date;
* `Date.exists_ordinal` — every day of the calendar has a date;
* `DateTime.ofSeconds?_seconds`, `DateTime.exists_ofSeconds?` — the same for date-times and their
  seconds;
* `DateTime.seconds_lower`, `DateTime.seconds_upper` — the range of the seconds;
* `DateTime.ofSeconds?_eq_none`, `DateTime.shift?_eq_none_iff` — seconds outside of the calendar;
* `DateTime.instant_lt_iff` — an earlier date-time has smaller fields, from the year on.
-/

namespace EntityStore

/-! ### Months -/

theorem daysBeforeMonth_succ (year m : Nat) (hm : 1 ≤ m) :
    daysBeforeMonth year (m + 1) = daysBeforeMonth year m + daysInMonth year m := by
  cases m with
  | zero => omega
  | succ m => rfl

/-- The days of a year, as the sum of its months. -/
theorem daysBeforeMonth_thirteen (year : Nat) :
    daysBeforeMonth year 13 = if isLeapYear year then 366 else 365 := by
  show 0 + 31 + (if isLeapYear year then 29 else 28) + 31 + 30 + 31 + 30 + 31 + 31 + 30 + 31 + 30
    + 31 = _
  split <;> rfl

theorem daysInMonth_pos (year month : Nat) : 1 ≤ daysInMonth year month := by
  unfold daysInMonth
  split
  · split <;> omega
  all_goals omega

theorem daysBeforeMonth_mono (year m : Nat) (hm : 1 ≤ m) :
    ∀ k, daysBeforeMonth year m ≤ daysBeforeMonth year (m + k) := by
  intro k
  induction k with
  | zero => exact Nat.le_refl _
  | succ k ih =>
    rw [show m + (k + 1) = m + k + 1 from rfl, daysBeforeMonth_succ year (m + k) (by omega)]
    omega

/-- **Counting on finds the month.** A day that lies `d` days into the month `m + k` is found from
the start of the month `m`, if there is fuel for `k` months. -/
theorem monthOf_add (year d : Nat) :
    ∀ fuel m k, 1 ≤ m → k ≤ fuel → d < daysInMonth year (m + k) →
      Date.monthOf year fuel m (daysBeforeMonth year (m + k) - daysBeforeMonth year m + d)
        = (m + k, d) := by
  intro fuel
  induction fuel with
  | zero =>
    intro m k _ hk _
    obtain rfl : k = 0 := by omega
    rw [Nat.add_zero m, Nat.sub_self, Nat.zero_add]
    rfl
  | succ fuel ih =>
    intro m k hm hk hd
    cases k with
    | zero =>
      rw [Nat.add_zero m] at hd ⊢
      rw [Nat.sub_self, Nat.zero_add]
      simp only [Date.monthOf, if_pos hd]
    | succ k =>
      have hsucc := daysBeforeMonth_succ year m hm
      have hle := daysBeforeMonth_mono year (m + 1) (by omega) k
      have hstep := ih (m + 1) k (by omega) (by omega)
        (by rwa [show m + 1 + k = m + (k + 1) by omega])
      rw [show m + 1 + k = m + (k + 1) by omega] at hle hstep
      have hnot : ¬ daysBeforeMonth year (m + (k + 1)) - daysBeforeMonth year m + d
          < daysInMonth year m := by omega
      rw [Date.monthOf]
      rw [if_neg hnot]
      rw [show daysBeforeMonth year (m + (k + 1)) - daysBeforeMonth year m + d - daysInMonth year m
          = daysBeforeMonth year (m + (k + 1)) - daysBeforeMonth year (m + 1) + d by omega]
      exact hstep

/-! ### Years -/

/-- A number of whole cycles and a rest are told apart again. -/
theorem cut_cycle (size q r : Nat) (hr : r < size) :
    (q * size + r) / size = q ∧ (q * size + r) % size = r := by
  have hpos : 0 < size := by omega
  rw [Nat.mul_comm]
  constructor
  · rw [Nat.mul_add_div hpos, Nat.div_eq_of_lt hr, Nat.add_zero]
  · rw [Nat.mul_add_mod, Nat.mod_eq_of_lt hr]

/-- The same where the last cycle may have one more day. -/
theorem cut_last_cycle (size q r last : Nat) (hpos : 0 < size) (hq : q ≤ last)
    (hr : r < size ∨ (r = size ∧ q = last)) : min ((q * size + r) / size) last = q := by
  rcases hr with hlt | ⟨rfl, rfl⟩
  · rw [(cut_cycle size q r hlt).1]
    exact Nat.min_eq_left hq
  · rw [← Nat.succ_mul, Nat.mul_div_cancel _ hpos]
    exact Nat.min_eq_right (Nat.le_succ q)

/-- A day in the cycles of 400, 100, 4 and 1 years. Only a year that ends a cycle of four has a day
365, unless it ends a cycle of 100 years that does not end one of 400. -/
theorem yearOf_cycles (a b c d doy : Nat) (hb : b ≤ 3) (hc : c ≤ 24) (hd : d ≤ 3)
    (hdoy : doy < 365 ∨ (doy = 365 ∧ d = 3 ∧ (c < 24 ∨ b = 3))) :
    Date.yearOf (a * 146097 + (b * 36524 + (c * 1461 + (d * 365 + doy))))
      = (a * 400 + b * 100 + c * 4 + d + 1, doy) := by
  have hyear := cut_last_cycle 365 d doy 3 (by decide) hd (by omega)
  have hfour := cut_cycle 1461 c (d * 365 + doy) (by omega)
  have hcentury := cut_last_cycle 36524 b (c * 1461 + (d * 365 + doy)) 3 (by decide) hb (by omega)
  have hcycle := cut_cycle 146097 a (b * 36524 + (c * 1461 + (d * 365 + doy))) (by omega)
  unfold Date.yearOf
  simp only [hcycle.1, hcycle.2, hcentury, Nat.add_sub_cancel_left, hfour.1, hfour.2, hyear]

/-- The days before a year, cycle by cycle. -/
theorem daysBeforeYear_cycles (a b c d : Nat) (hb : b ≤ 3) (hc : c ≤ 24) (hd : d ≤ 3) :
    daysBeforeYear (a * 400 + b * 100 + c * 4 + d + 1)
      = a * 146097 + b * 36524 + c * 1461 + d * 365 := by
  rw [daysBeforeYear, Nat.add_sub_cancel]
  show (a * 400 + b * 100 + c * 4 + d) * 365 + (a * 400 + b * 100 + c * 4 + d) / 4
    - (a * 400 + b * 100 + c * 4 + d) / 100 + (a * 400 + b * 100 + c * 4 + d) / 400 = _
  have h4 : (a * 400 + b * 100 + c * 4 + d) / 4 = a * 100 + b * 25 + c := by omega
  have h100 : (a * 400 + b * 100 + c * 4 + d) / 100 = a * 4 + b := by omega
  have h400 : (a * 400 + b * 100 + c * 4 + d) / 400 = a := by omega
  omega

/-- Every year lies in the cycles of 400, 100, 4 and 1 years. -/
theorem exists_cycles (year : Nat) (hyear : 1 ≤ year) :
    ∃ a b c d, b ≤ 3 ∧ c ≤ 24 ∧ d ≤ 3 ∧ year = a * 400 + b * 100 + c * 4 + d + 1 :=
  ⟨(year - 1) / 400, (year - 1) / 100 % 4, (year - 1) / 4 % 25, (year - 1) % 4, by omega, by omega,
    by omega, by omega⟩

/-- The length of a year in the cycles of 400, 100, 4 and 1 years. -/
theorem isLeapYear_cycles (a b c d : Nat) (hb : b ≤ 3) (hc : c ≤ 24) (hd : d ≤ 3) :
    isLeapYear (a * 400 + b * 100 + c * 4 + d + 1) = true ↔ d = 3 ∧ (c < 24 ∨ b = 3) := by
  simp only [isLeapYear, Bool.and_eq_true, Bool.or_eq_true, beq_iff_eq, bne_iff_ne]
  omega

/-- The days of a year. The cycles are gone through from the smallest on: where one of them ends,
the next larger one goes on. -/
theorem daysBeforeYear_succ (year : Nat) (hyear : 1 ≤ year) :
    daysBeforeYear (year + 1) = daysBeforeYear year + if isLeapYear year then 366 else 365 := by
  obtain ⟨a, b, c, d, hb, hc, hd, rfl⟩ := exists_cycles year hyear
  have hleap := isLeapYear_cycles a b c d hb hc hd
  rw [daysBeforeYear_cycles a b c d hb hc hd]
  by_cases hone : d < 3
  · rw [if_neg (fun h => by have := hleap.mp h; omega),
      show a * 400 + b * 100 + c * 4 + d + 1 + 1 = a * 400 + b * 100 + c * 4 + (d + 1) + 1 by omega,
      daysBeforeYear_cycles a b c (d + 1) hb hc hone]
    omega
  by_cases hfour : c < 24
  · rw [if_pos (hleap.mpr (by omega)),
      show a * 400 + b * 100 + c * 4 + d + 1 + 1 = a * 400 + b * 100 + (c + 1) * 4 + 0 + 1 by omega,
      daysBeforeYear_cycles a b (c + 1) 0 hb hfour (by omega)]
    omega
  by_cases hcentury : b < 3
  · rw [if_neg (fun h => by have := hleap.mp h; omega),
      show a * 400 + b * 100 + c * 4 + d + 1 + 1 = a * 400 + (b + 1) * 100 + 0 * 4 + 0 + 1 by omega,
      daysBeforeYear_cycles a (b + 1) 0 0 hcentury (by omega) (by omega)]
    omega
  · rw [if_pos (hleap.mpr (by omega)),
      show a * 400 + b * 100 + c * 4 + d + 1 + 1 = (a + 1) * 400 + 0 * 100 + 0 * 4 + 0 + 1 by omega,
      daysBeforeYear_cycles (a + 1) 0 0 0 (by omega) (by omega) (by omega)]
    omega

/-- **The cycles find the year.** -/
theorem yearOf_add (year doy : Nat) (hyear : 1 ≤ year)
    (hdoy : doy < if isLeapYear year then 366 else 365) :
    Date.yearOf (daysBeforeYear year + doy) = (year, doy) := by
  obtain ⟨a, b, c, d, hb, hc, hd, rfl⟩ := exists_cycles year hyear
  have hleap : doy < 365 ∨ (doy = 365 ∧ d = 3 ∧ (c < 24 ∨ b = 3)) := by
    have hiff := isLeapYear_cycles a b c d hb hc hd
    split at hdoy
    · have hends := hiff.mp ‹_›
      omega
    · omega
  rw [daysBeforeYear_cycles a b c d hb hc hd]
  rw [show a * 146097 + b * 36524 + c * 1461 + d * 365 + doy
      = a * 146097 + (b * 36524 + (c * 1461 + (d * 365 + doy))) by omega]
  exact yearOf_cycles a b c d doy hb hc hd hleap

/-! ### Dates -/

namespace Date

/-- The day in the year, counted from zero. -/
theorem dayOfYear_lt (d : Date) :
    daysBeforeMonth d.year d.month + (d.day - 1) < if isLeapYear d.year then 366 else 365 := by
  have hmonth := d.month_mem
  have hday := d.day_mem
  have hmono := daysBeforeMonth_mono d.year (d.month + 1) (by omega) (12 - d.month)
  rw [show d.month + 1 + (12 - d.month) = 13 by omega, daysBeforeMonth_thirteen,
    daysBeforeMonth_succ d.year d.month hmonth.1] at hmono
  omega

/-- **Ordinals lose nothing.** -/
theorem ofOrdinal?_ordinal (d : Date) : ofOrdinal? d.ordinal = some d := by
  have hmonth := d.month_mem
  have hday := d.day_mem
  have hyear : yearOf d.ordinal
      = (d.year, daysBeforeMonth d.year d.month + (d.day - 1)) := by
    rw [ordinal, Nat.add_assoc]
    exact yearOf_add d.year _ d.year_mem.1 d.dayOfYear_lt
  have hfound := monthOf_add d.year (d.day - 1) 11 1 (d.month - 1) (Nat.le_refl 1) (by omega)
    (by rw [show 1 + (d.month - 1) = d.month by omega]; omega)
  rw [show 1 + (d.month - 1) = d.month by omega, show daysBeforeMonth d.year 1 = 0 from rfl,
    Nat.sub_zero] at hfound
  simp only [ofOrdinal?, hyear, hfound]
  rw [show d.day - 1 + 1 = d.day by omega]
  simp only [make, dif_pos d.year_mem, dif_pos d.month_mem, dif_pos d.day_mem]
  rfl

/-- The last day of the calendar. -/
theorem ordinal_le (d : Date) : d.ordinal ≤ 3652058 := by
  have hyear := d.year_mem
  have hlt := d.dayOfYear_lt
  have hlast : isLeapYear d.year = true → d.year ≠ 9999 := by
    intro h heq
    rw [heq] at h
    exact absurd h (by decide)
  rw [ordinal, daysBeforeYear]
  split at hlt
  · have := hlast ‹_›
    omega
  · omega

/-- Every date but the last one of the calendar has a next one: on the next day of the month, on the
first day of the next month, or on the first day of the next year. -/
theorem exists_next (d : Date) (h : d.ordinal < 3652058) :
    ∃ next : Date, next.ordinal = d.ordinal + 1 := by
  have hyear := d.year_mem
  have hmonth := d.month_mem
  have hday := d.day_mem
  have hmonthEnd := daysBeforeMonth_succ d.year d.month hmonth.1
  by_cases hinner : d.day < daysInMonth d.year d.month
  · refine ⟨⟨d.year, d.month, d.day + 1, hyear, hmonth, by omega⟩, ?_⟩
    simp only [ordinal]
    omega
  by_cases hbefore : d.month < 12
  · refine ⟨⟨d.year, d.month + 1, 1, hyear, by omega, Nat.le_refl 1, daysInMonth_pos _ _⟩, ?_⟩
    simp only [ordinal]
    omega
  have hordinal : d.ordinal + 1 = daysBeforeYear (d.year + 1) := by
    have hdecember : d.month = 12 := by omega
    have hthirteen : daysBeforeMonth d.year (d.month + 1) = daysBeforeMonth d.year 13 := by
      rw [hdecember]
    rw [daysBeforeYear_succ d.year hyear.1, ← daysBeforeMonth_thirteen d.year, ordinal]
    omega
  have hlast : d.year ≠ 9999 := by
    intro heq
    have hend : daysBeforeYear (9999 + 1) = 3652059 := by decide
    rw [heq, hend] at hordinal
    omega
  refine ⟨⟨d.year + 1, 1, 1, by omega, by omega, Nat.le_refl 1, daysInMonth_pos _ _⟩, ?_⟩
  rw [hordinal]
  rfl

/-- **Every day of the calendar has a date.** The induction is on the number of the day: the date of
the next day is the next date. -/
theorem exists_ordinal (n : Nat) (h : n ≤ 3652058) : ∃ d : Date, d.ordinal = n := by
  induction n with
  | zero => exact ⟨⟨1, 1, 1, by decide, by decide, by decide⟩, rfl⟩
  | succ n ih =>
    obtain ⟨d, rfl⟩ := ih (by omega)
    exact d.exists_next (by omega)

/-- The days behind the calendar fall into later years. -/
theorem le_yearOf {n : Nat} (h : 3652058 < n) : 10000 ≤ (yearOf n).1 := by
  have hcycles : n / 146097 * 146097 + n % 146097 = n := Nat.div_add_mod' n 146097
  have hrest : n % 146097 < 146097 := Nat.mod_lt n (by decide)
  simp only [yearOf]
  generalize n / 146097 = q at *
  generalize n % 146097 = r at *
  by_cases hlater : 25 ≤ q
  · omega
  · obtain rfl : q = 24 := by omega
    have hcentury : min (r / 36524) 3 = 3 := by omega
    rw [hcentury]
    omega

/-- No other day has one. -/
theorem ofOrdinal?_of_lt {n : Nat} (h : 3652058 < n) : ofOrdinal? n = none := by
  have hyear : ¬ (1 ≤ (yearOf n).1 ∧ (yearOf n).1 ≤ 9999) := by
    have hlate := le_yearOf h
    omega
  simp only [ofOrdinal?, make, dif_neg hyear]
  rfl

end Date

/-! ### Date-times -/

namespace TimeOfDay

theorem seconds_lt (t : TimeOfDay) : t.seconds < 86400 := by
  have hh := t.hour_lt
  have hm := t.minute_lt
  have hs := t.second_lt
  rw [seconds]
  omega

/-- The time of the seconds and the microseconds of a time is that time. -/
theorem ofSeconds_seconds (t : TimeOfDay) :
    ofSeconds t.seconds ⟨t.microsecond, t.microsecond_lt⟩ = t := by
  obtain ⟨h, m, s, u, hh, hm, hs, hu⟩ := t
  simp only [ofSeconds, seconds, mk.injEq, and_true]
  omega

theorem seconds_ofSeconds {n : Nat} (h : n < 86400) (microsecond : Fin 1000000) :
    (ofSeconds n microsecond).seconds = n := by
  simp only [ofSeconds, seconds]
  omega

end TimeOfDay

namespace DateTime

theorem seconds_lower (t : DateTime) : -62135596800 ≤ t.seconds := by
  rw [seconds, epoch]
  omega

theorem seconds_upper (t : DateTime) : t.seconds ≤ 253402300799 := by
  have hd := t.date.ordinal_le
  have ht := t.time.seconds_lt
  rw [seconds, epoch]
  omega

/-- **Seconds and microseconds lose nothing.** -/
theorem ofSeconds?_seconds (t : DateTime) : ofSeconds? t.seconds t.micros = some t := by
  have ht := t.time.seconds_lt
  have hsum : t.seconds + (epoch : Nat) = (t.date.ordinal * 86400 + t.time.seconds : Nat) := by
    rw [seconds]
    omega
  have hday : (t.date.ordinal * 86400 + t.time.seconds) / 86400 = t.date.ordinal := by omega
  have htime : (t.date.ordinal * 86400 + t.time.seconds) % 86400 = t.time.seconds := by omega
  simp only [ofSeconds?, hsum]
  rw [if_neg (by omega), Int.toNat_natCast, hday, htime, Date.ofOrdinal?_ordinal]
  show some (⟨t.date, TimeOfDay.ofSeconds t.time.seconds t.micros⟩ : DateTime) = some t
  rw [show t.micros = ⟨t.time.microsecond, t.time.microsecond_lt⟩ from rfl,
    TimeOfDay.ofSeconds_seconds]

/-- **Every second of the calendar has a date-time**, with any microseconds. -/
theorem exists_ofSeconds? {s : Int} (hlower : -62135596800 ≤ s) (hupper : s ≤ 253402300799)
    (microsecond : Fin 1000000) :
    ∃ t, ofSeconds? s microsecond = some t ∧ t.seconds = s ∧ t.micros = microsecond := by
  obtain ⟨n, hn⟩ := Int.eq_ofNat_of_zero_le (show 0 ≤ s + (epoch : Nat) by rw [epoch]; omega)
  have hbound : n < 315537897600 := by
    rw [epoch] at hn
    omega
  obtain ⟨d, hd⟩ := Date.exists_ordinal (n / 86400) (by omega)
  have hseconds : (⟨d, .ofSeconds (n % 86400) microsecond⟩ : DateTime).seconds = s := by
    rw [seconds, hd, TimeOfDay.seconds_ofSeconds (Nat.mod_lt n (by decide))]
    omega
  refine ⟨⟨d, .ofSeconds (n % 86400) microsecond⟩, ?_, hseconds, rfl⟩
  rw [← ofSeconds?_seconds, hseconds]
  rfl

/-- **No other second has one.** -/
theorem ofSeconds?_eq_none {s : Int} (h : s < -62135596800 ∨ 253402300799 < s)
    (microsecond : Fin 1000000) : ofSeconds? s microsecond = none := by
  have hepoch : ((epoch : Nat) : Int) = 62135596800 := rfl
  simp only [ofSeconds?, hepoch]
  rcases h with hearly | hlate
  · rw [if_pos (by omega)]
  · rw [if_neg (by omega), Date.ofOrdinal?_of_lt (by omega)]
    rfl

/-- A date-time can be moved exactly if some date-time stands at the second that it is moved to. -/
theorem shift?_eq_none_iff {t : DateTime} {delta : Int} :
    t.shift? delta = none ↔ ∀ u : DateTime, u.seconds ≠ t.seconds + delta := by
  by_cases h : -62135596800 ≤ t.seconds + delta ∧ t.seconds + delta ≤ 253402300799
  · obtain ⟨u, hu, hseconds, -⟩ := exists_ofSeconds? h.1 h.2 t.micros
    rw [shift?, hu]
    exact ⟨nofun, fun hnone => absurd hseconds (hnone u)⟩
  · have hnone : t.shift? delta = none := ofSeconds?_eq_none (by omega) _
    refine ⟨fun _ u hu => h ?_, fun _ => hnone⟩
    rw [← hu]
    exact ⟨u.seconds_lower, u.seconds_upper⟩

end DateTime

/-! ### Order -/

theorem daysBeforeYear_mono {y z : Nat} (h : y ≤ z) : daysBeforeYear y ≤ daysBeforeYear z := by
  have hfour : (y - 1) / 4 ≤ (z - 1) / 4 := Nat.div_le_div_right (by omega)
  have hcycle : (y - 1) / 400 ≤ (z - 1) / 400 := Nat.div_le_div_right (by omega)
  simp only [daysBeforeYear]
  omega

/-- An earlier date stands for an earlier day. What the smaller units add stays below the start of
the next year, and of the next month. -/
theorem Date.ordinal_lt_of_lt {d e : Date}
    (h : d.year < e.year ∨ d.year = e.year ∧
      (d.month < e.month ∨ d.month = e.month ∧ d.day < e.day)) : d.ordinal < e.ordinal := by
  have hday := d.day_mem
  rcases h with hyear | ⟨hyear, hmonth | ⟨hmonth, hlt⟩⟩
  · have hinner := d.dayOfYear_lt
    have hnext := daysBeforeYear_succ d.year d.year_mem.1
    have hmono : daysBeforeYear (d.year + 1) ≤ daysBeforeYear e.year := daysBeforeYear_mono hyear
    simp only [ordinal]
    omega
  · have hnext := daysBeforeMonth_succ d.year d.month d.month_mem.1
    have hmono := daysBeforeMonth_mono d.year (d.month + 1) (by omega) (e.month - (d.month + 1))
    rw [show d.month + 1 + (e.month - (d.month + 1)) = e.month by omega] at hmono
    simp only [ordinal, ← hyear]
    omega
  · simp only [ordinal, ← hyear, ← hmonth]
    omega

theorem Date.ordinal_lt_iff {d e : Date} :
    d.ordinal < e.ordinal ↔ d.year < e.year ∨ d.year = e.year ∧
      (d.month < e.month ∨ d.month = e.month ∧ d.day < e.day) := by
  refine ⟨fun h => ?_, ordinal_lt_of_lt⟩
  have hnot := mt (ordinal_lt_of_lt (d := e) (e := d)) (Nat.not_lt.mpr (Nat.le_of_lt h))
  have hne : ¬ (d.year = e.year ∧ d.month = e.month ∧ d.day = e.day) := by
    rintro ⟨hyear, hmonth, hday⟩
    rw [ordinal, ordinal, hyear, hmonth, hday] at h
    exact Nat.lt_irrefl _ h
  omega

namespace DateTime

/-- The microseconds since 1970. -/
def instant (t : DateTime) : Int := t.seconds * 1000000 + t.time.microsecond

/-- The fields of a date-time, from the largest unit to the smallest one. -/
def fields (t : DateTime) : List Nat :=
  [t.date.year, t.date.month, t.date.day, t.time.hour, t.time.minute, t.time.second,
    t.time.microsecond]

/-- **The order of instants** is that of the fields. -/
theorem instant_lt_iff (s t : DateTime) : s.instant < t.instant ↔ s.fields < t.fields := by
  obtain ⟨d, h, m, s, u, hhour, hminute, hsecond, hmicro⟩ := s
  obtain ⟨d', h', m', s', u', hhour', hminute', hsecond', hmicro'⟩ := t
  have hearlier := Date.ordinal_lt_iff (d := d) (e := d')
  have hlater := Date.ordinal_lt_iff (d := d') (e := d)
  simp only [fields, List.cons_lt_cons_iff, List.not_lt_nil, and_false, or_false, instant, seconds,
    TimeOfDay.seconds]
  omega

end DateTime

end EntityStore
