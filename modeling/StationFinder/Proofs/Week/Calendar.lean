import StationFinder.Week.Calendar
import Mathlib.Data.Int.Init

/-!
# Proofs/Week/Calendar — the clock goes round the week without gaps

What calendars have in common is that their days follow one another and that the first of 1970 was a
Thursday (`Calendar.Lawful`).  Counting from that day in both directions gives the day of the week
of every date (`index_weekday`), hence the minute of the week that is read off a date-time
(`minutes_reading`).  It depends on the seconds that a clock shows and on nothing else, and equals
what `Instant.ofTime?` says without a calendar (`clock_goes_round_week`).
-/

namespace StationFinder

namespace Instant

variable {seconds offset : Int} {nanos : Nat}

theorem isInCalendar_iff :
    isInCalendar seconds = true ↔ -8334601228800 ≤ seconds ∧ seconds < 8210266876800 := by
  rw [isInCalendar, Bool.and_eq_true, decide_eq_true_iff, decide_eq_true_iff]

/-- A point in time that the calendar reaches, and whose time on a clock that is `offset` seconds
ahead it reaches as well. -/
structure InReach (seconds : Int) (nanos : Nat) (offset : Int) : Prop where
  inSecond : isInSecond seconds nanos = true
  offset_lt : offset.natAbs < 86400
  universal : isInCalendar seconds = true
  shown : isInCalendar (seconds + offset) = true

theorem InReach.ofTime?_eq (h : InReach seconds nanos offset) :
    ofTime? seconds nanos offset = some (ofSeconds seconds offset) := by
  simp [ofTime?, h.inSecond, h.offset_lt, h.universal, h.shown]

/-- The clock of the machine shows the second, whatever part of it has gone by. -/
theorem InReach.now?_eq (h : InReach seconds nanos offset) (hstarted : 0 ≤ seconds) :
    now? seconds offset = some (ofSeconds seconds offset) := by
  have hwhole : InReach seconds 0 offset := { h with inSecond := rfl }
  rw [now?, if_pos hstarted, hwhole.ofTime?_eq]

/-- A number of minutes later it is the same place in a second. -/
theorem InReach.add_minutes (h : InReach seconds nanos offset) {m : Int}
    (huniversal : isInCalendar (seconds + 60 * m) = true)
    (hshown : isInCalendar (seconds + 60 * m + offset) = true) :
    InReach (seconds + 60 * m) nanos offset where
  inSecond := by
    have hmod : (seconds + 60 * m).emod 60 = seconds.emod 60 := Int.add_mul_emod_self_left ..
    rw [isInSecond, hmod]
    exact h.inSecond
  offset_lt := h.offset_lt
  universal := huniversal
  shown := hshown

/-- The point in time whose second at the offset 0 a clock shows. -/
theorem InReach.naive {nanos' : Nat} (h : InReach seconds nanos offset)
    (hsecond : isInSecond (seconds + offset) nanos' = true) :
    InReach (seconds + offset) nanos' 0 where
  inSecond := hsecond
  offset_lt := by decide
  universal := h.shown
  shown := by rw [Int.add_zero]; exact h.shown

/-- What is read off a clock at an instant. -/
def reading (t : Instant) : Reading where
  day := t.day
  minute := t.minute.word

theorem minutes_reading (t : Instant) : t.reading.minutes = t.minutes := by
  rw [Reading.minutes, reading, Minute.toNat_word, minutes]

theorem ofSeconds_naive (seconds offset : Int) :
    ofSeconds (seconds + offset) 0 = ofSeconds seconds offset := by
  rw [ofSeconds, Int.add_zero, ofSeconds]

/-- The minute of the week is counted from the Sunday before the first of 1970. -/
theorem minutes_ofSeconds (seconds offset : Int) :
    ((ofSeconds seconds offset).minutes : Int)
      = ((seconds + offset).fdiv 60 + 4 * 1440).fmod 10080 := by
  rw [ofSeconds, minutes_ofMinutes, Int.fmod_eq_emod_of_nonneg _ (by decide)]
  show ((((_ % 10080 : Int).toNat % 10080 : Nat)) : Int) = _
  omega

/-- **Time goes round the week minute by minute.** -/
theorem minutes_ofSeconds_add_minutes (seconds offset m : Int) :
    ((ofSeconds (seconds + 60 * m) offset).minutes : Int)
      = ((ofSeconds seconds offset).minutes + m) % 10080 := by
  rw [minutes_ofSeconds, minutes_ofSeconds]
  simp only [Int.fdiv_eq_ediv_of_nonneg _ (show (0 : Int) ≤ 60 by decide),
    Int.fmod_eq_emod_of_nonneg _ (show (0 : Int) ≤ 10080 by decide)]
  omega

theorem toNat_minute_reading_lt (t : Instant) : t.reading.minute.toNat < 1440 := by
  rw [reading, Minute.toNat_word]
  exact t.minute.count_lt

end Instant

/-- No two readings have the same minute of the week. -/
theorem Reading.eq_of_minutes {r r' : Reading} (h : r.minute.toNat < 1440)
    (h' : r'.minute.toNat < 1440) (heq : r.minutes = r'.minutes) : r = r' := by
  unfold minutes at heq
  have hindex : r.day.index = r'.day.index := by omega
  have hday : r.day = r'.day :=
    Option.some.inj (by rw [← Day.ofIndex?_index r.day, ← Day.ofIndex?_index r'.day, hindex])
  have hminute : r.minute = r'.minute := UInt16.toNat_inj.mp (by omega)
  exact Reading.ext hday hminute

/-! ## Calendars -/

/-- The rules that calendars keep. -/
structure Calendar.Lawful (cal : Calendar) : Prop where
  /-- There is a date-time for every second that the calendar reaches. -/
  exists_at {seconds : Int} {nanos : Nat} : Instant.isInSecond seconds nanos = true →
    Instant.isInCalendar seconds = true →
    ∃ d, cal.at? seconds nanos = some d ∧ cal.seconds d = seconds
  /-- A clock that is ahead by less than a day shows the second that it is ahead. -/
  exists_ahead {d : cal.DateTime} {offset : Int} : offset.natAbs < 86400 →
    Instant.isInCalendar (cal.seconds d + offset) = true →
    ∃ d', cal.ahead? d offset = some d' ∧ cal.seconds d' = cal.seconds d + offset
  hour_lt (d : cal.DateTime) : (cal.hour d).toNat < 24
  minute_lt (d : cal.DateTime) : (cal.minute d).toNat < 60
  second_lt (d : cal.DateTime) : (cal.second d).toNat < 60
  /-- The year 1970 began on a Thursday. -/
  weekday_zero {d : cal.DateTime} : cal.dayNumber d = 0 → cal.weekday d = .thursday
  /-- The days of the week follow one another without a gap. -/
  weekday_succ {d d' : cal.DateTime} : cal.dayNumber d' = cal.dayNumber d + 1 →
    cal.weekday d' = (cal.weekday d).next

namespace Calendar.Lawful

variable {cal : Calendar} (hcal : cal.Lawful)
include hcal

theorem dayNumber_eq (d : cal.DateTime) : cal.dayNumber d = cal.seconds d / 86400 := by
  have hhour := hcal.hour_lt d
  have hminute := hcal.minute_lt d
  have hsecond := hcal.second_lt d
  unfold seconds
  omega

/-- Every day that the calendar reaches has a date-time. -/
theorem exists_dayNumber {k : Int} (hk : Instant.isInCalendar (86400 * k) = true) :
    ∃ d, cal.dayNumber d = k := by
  have hstart : Instant.isInSecond (86400 * k) 0 = true := rfl
  obtain ⟨d, -, hd⟩ := hcal.exists_at hstart hk
  refine ⟨d, ?_⟩
  rw [hcal.dayNumber_eq, hd]
  omega

/-- The day of the week is counted from the first of 1970, day by day in both directions. -/
theorem index_weekday {k : Int} (hk : Instant.isInCalendar (86400 * k) = true) (d : cal.DateTime)
    (hd : cal.dayNumber d = k) : ((cal.weekday d).day.index : Int) = (k + 4) % 7 := by
  induction k using Int.induction_on generalizing d with
  | zero =>
    rw [hcal.weekday_zero hd]
    rfl
  | succ i ih =>
    have hi : Instant.isInCalendar (86400 * (i : Int)) = true := by
      rw [Instant.isInCalendar_iff] at hk ⊢
      omega
    obtain ⟨before, hbefore⟩ := hcal.exists_dayNumber hi
    have hindex := ih hi before hbefore
    rw [hcal.weekday_succ (hd.trans (by rw [hbefore])), Weekday.index_day_next]
    omega
  | pred i ih =>
    have hi : Instant.isInCalendar (86400 * (-i : Int)) = true := by
      rw [Instant.isInCalendar_iff] at hk ⊢
      omega
    obtain ⟨after, hafter⟩ := hcal.exists_dayNumber hi
    have hindex := ih hi after hafter
    rw [hcal.weekday_succ (d := d) (by omega), Weekday.index_day_next] at hindex
    have hlt := (cal.weekday d).day.index_lt
    omega

/-- No minute of the day is lost when it is kept in 16 bits. -/
theorem toNat_minute_reading (d : cal.DateTime) :
    (cal.reading d).minute.toNat = (cal.hour d).toNat * 60 + (cal.minute d).toNat := by
  have hhour := hcal.hour_lt d
  have hminute := hcal.minute_lt d
  simp only [reading, UInt32.toNat_toUInt16, UInt32.toNat_add, UInt32.toNat_mul]
  have hsixty : (60 : UInt32).toNat = 60 := rfl
  rw [hsixty]
  omega

/-- **The minute of the week is that of the seconds which a date-time shows**, counted from the
Sunday before the first of 1970. -/
theorem minutes_reading {d : cal.DateTime} (hd : Instant.isInCalendar (cal.seconds d) = true) :
    ((cal.reading d).minutes : Int) = ((cal.seconds d).fdiv 60 + 4 * 1440).fmod 10080 := by
  have hhour := hcal.hour_lt d
  have hminute := hcal.minute_lt d
  have hsecond := hcal.second_lt d
  have hday : Instant.isInCalendar (86400 * cal.dayNumber d) = true := by
    rw [Instant.isInCalendar_iff] at hd ⊢
    unfold seconds at hd
    omega
  have hindex := hcal.index_weekday hday d rfl
  have hindex' : (cal.reading d).day.index = (cal.weekday d).day.index := rfl
  rw [Int.fdiv_eq_ediv_of_nonneg _ (by decide), Int.fmod_eq_emod_of_nonneg _ (by decide),
    Reading.minutes, hcal.toNat_minute_reading, hindex']
  unfold seconds
  omega

theorem toNat_minute_reading_lt (d : cal.DateTime) : (cal.reading d).minute.toNat < 1440 := by
  have hhour := hcal.hour_lt d
  have hminute := hcal.minute_lt d
  rw [hcal.toNat_minute_reading]
  omega

/-- What is read off a date-time is the instant of the seconds that it shows. -/
theorem reading_eq {d : cal.DateTime} {seconds offset : Int} (hd : cal.seconds d = seconds + offset)
    (hreach : Instant.isInCalendar (seconds + offset) = true) :
    cal.reading d = (Instant.ofSeconds seconds offset).reading := by
  have hminutes := hcal.minutes_reading (hd ▸ hreach)
  rw [hd, ← Instant.minutes_ofSeconds, ← Instant.minutes_reading] at hminutes
  exact Reading.eq_of_minutes (hcal.toNat_minute_reading_lt d)
    (Instant.toNat_minute_reading_lt _) (Int.ofNat_inj.mp hminutes)

/-- **A clock shows the instant of the second that it is ahead.** -/
theorem clockReading?_eq {seconds offset : Int} {nanos : Nat}
    (h : Instant.InReach seconds nanos offset) :
    cal.clockReading? seconds nanos offset
      = some (Instant.ofSeconds seconds offset).reading := by
  obtain ⟨universal, hat, huniversal⟩ := hcal.exists_at h.inSecond h.universal
  obtain ⟨shown, hahead, hshown⟩ :=
    hcal.exists_ahead (d := universal) h.offset_lt (by rw [huniversal]; exact h.shown)
  rw [huniversal] at hshown
  rw [clockReading?, hat, Option.bind_eq_bind, Option.bind_some, hahead,
    ← hcal.reading_eq hshown h.shown]
  rfl

theorem naiveReading?_eq {seconds offset : Int} {nanos : Nat}
    (hsecond : Instant.isInSecond (seconds + offset) nanos = true)
    (hreach : Instant.isInCalendar (seconds + offset) = true) :
    cal.naiveReading? (seconds + offset) nanos
      = some (Instant.ofSeconds seconds offset).reading := by
  obtain ⟨d, hat, hd⟩ := hcal.exists_at hsecond hreach
  rw [naiveReading?, hat, Option.map_some, hcal.reading_eq hd hreach]

/-- **The clock goes round the week without gaps.**  What is read off a clock is the minute of the
week of the second that it shows; the offset counts for nothing else, and the part of the second for
nothing at all.  It is the instant that is told without a calendar, also of the present time at this
offset.  A minute later it is the next minute of the week, and a week later the same. -/
theorem clock_goes_round_week {seconds offset : Int} {nanos : Nat}
    (h : Instant.InReach seconds nanos offset) :
    ∃ r, cal.clockReading? seconds nanos offset = some r
      ∧ (r.day.index * 1440 + r.minute.toNat : Int)
          = ((seconds + offset).fdiv 60 + 4 * 1440).fmod 10080
      ∧ r.minute.toNat < 1440
      ∧ (Instant.ofTime? seconds nanos offset).map Instant.reading = some r
      ∧ (∀ nanos', Instant.isInSecond (seconds + offset) nanos' = true →
          cal.naiveReading? (seconds + offset) nanos' = some r
            ∧ (Instant.ofTime? (seconds + offset) nanos' 0).map Instant.reading = some r)
      ∧ (Instant.isInCalendar (seconds + 60) = true →
          Instant.isInCalendar (seconds + 60 + offset) = true →
          ∃ r', cal.clockReading? (seconds + 60) nanos offset = some r'
            ∧ r'.minutes = (r.minutes + 1) % 10080)
      ∧ (Instant.isInCalendar (seconds + 604800) = true →
          Instant.isInCalendar (seconds + 604800 + offset) = true →
          cal.clockReading? (seconds + 604800) nanos offset = some r)
      ∧ (0 ≤ seconds → (Instant.now? seconds offset).map Instant.reading = some r) := by
  refine ⟨_, hcal.clockReading?_eq h, ?_, Instant.toNat_minute_reading_lt _,
    by rw [h.ofTime?_eq, Option.map_some], fun nanos' hsecond => ⟨?_, ?_⟩,
    fun huniversal hshown => ?_, fun huniversal hshown => ?_, fun hstarted => ?_⟩
  · rw [← Instant.minutes_ofSeconds, ← Instant.minutes_reading, Reading.minutes,
      Int.natCast_add, Int.natCast_mul]
    rfl
  · exact hcal.naiveReading?_eq hsecond h.shown
  · rw [(h.naive hsecond).ofTime?_eq, Option.map_some, Instant.ofSeconds_naive]
  · have hnext : ((Instant.ofSeconds (seconds + 60) offset).minutes : Int) = _ :=
      Instant.minutes_ofSeconds_add_minutes seconds offset 1
    refine ⟨_, hcal.clockReading?_eq (h.add_minutes (m := 1) huniversal hshown), ?_⟩
    rw [Instant.minutes_reading, Instant.minutes_reading]
    omega
  · have hlater : ((Instant.ofSeconds (seconds + 604800) offset).minutes : Int) = _ :=
      Instant.minutes_ofSeconds_add_minutes seconds offset 10080
    have hlt := Instant.minutes_lt (Instant.ofSeconds seconds offset)
    have hread : cal.clockReading? (seconds + 604800) nanos offset
        = some (Instant.ofSeconds (seconds + 604800) offset).reading :=
      hcal.clockReading?_eq (h.add_minutes (m := 10080) huniversal hshown)
    refine hread.trans (congrArg some (Reading.eq_of_minutes
      (Instant.toNat_minute_reading_lt _) (Instant.toNat_minute_reading_lt _) ?_))
    rw [Instant.minutes_reading, Instant.minutes_reading]
    unfold Instant.weekLength at hlt
    omega
  · rw [h.now?_eq hstarted, Option.map_some]

end Calendar.Lawful

/-! ## A calendar that counts -/

/-- The day a number of days after a Thursday. -/
def Weekday.afterThursday : Nat → Weekday
  | 0 => thursday
  | n + 1 => (afterThursday n).next

/-- After seven days it is a Thursday again. -/
theorem Weekday.afterThursday_succ_mod {n : Nat} (h : n < 7) :
    afterThursday ((n + 1) % 7) = (afterThursday n).next := by
  have hall : ∀ n < 7, afterThursday ((n + 1) % 7) = (afterThursday n).next := by decide
  exact hall n h

namespace Calendar

/-- The calendar in which a date-time is the number of seconds from the start of 1970, with the
nanoseconds, and everything that it says is computed from that number. -/
def counted : Calendar where
  DateTime := Int × Nat
  at? seconds nanos :=
    if Instant.isInSecond seconds nanos && Instant.isInCalendar seconds then some (seconds, nanos)
    else none
  ahead? d offset :=
    if Instant.isInCalendar (d.1 + offset) then some (d.1 + offset, d.2) else none
  dayNumber d := d.1 / 86400
  weekday d := Weekday.afterThursday (d.1 / 86400 % 7).toNat
  hour d := UInt32.ofNat ((d.1 % 86400).toNat / 3600)
  minute d := UInt32.ofNat ((d.1 % 86400).toNat / 60 % 60)
  second d := UInt32.ofNat ((d.1 % 86400).toNat % 60)

theorem toNat_ofNat_of_lt_hundred {n : Nat} (h : n < 100) : (UInt32.ofNat n).toNat = n :=
  UInt32.toNat_ofNat_of_lt' (Nat.lt_trans h (by decide))

theorem hour_counted (d : counted.DateTime) :
    (counted.hour d).toNat = (d.1 % 86400).toNat / 3600 :=
  toNat_ofNat_of_lt_hundred (by omega)

theorem minute_counted (d : counted.DateTime) :
    (counted.minute d).toNat = (d.1 % 86400).toNat / 60 % 60 :=
  toNat_ofNat_of_lt_hundred (by omega)

theorem second_counted (d : counted.DateTime) :
    (counted.second d).toNat = (d.1 % 86400).toNat % 60 :=
  toNat_ofNat_of_lt_hundred (by omega)

theorem seconds_counted (d : counted.DateTime) : counted.seconds d = d.1 := by
  rw [seconds, hour_counted, minute_counted, second_counted]
  show 86400 * (d.1 / 86400) + _ + _ + _ = d.1
  omega

theorem lawful_counted : counted.Lawful where
  exists_at {seconds nanos} hsecond hreach :=
    ⟨(seconds, nanos), if_pos (by rw [hsecond, hreach]; rfl), seconds_counted _⟩
  exists_ahead {d offset} _ hreach := by
    rw [seconds_counted] at hreach ⊢
    exact ⟨(d.1 + offset, d.2), if_pos hreach, seconds_counted _⟩
  hour_lt d := by rw [hour_counted]; omega
  minute_lt d := by rw [minute_counted]; omega
  second_lt d := by rw [second_counted]; omega
  weekday_zero {d} h := by
    have hday : d.1 / 86400 = 0 := h
    show Weekday.afterThursday (d.1 / 86400 % 7).toNat = _
    rw [hday]
    rfl
  weekday_succ {d d'} h := by
    have hday : d'.1 / 86400 = d.1 / 86400 + 1 := h
    have hmod : (d'.1 / 86400 % 7).toNat = ((d.1 / 86400 % 7).toNat + 1) % 7 := by omega
    show Weekday.afterThursday (d'.1 / 86400 % 7).toNat = _
    rw [hmod]
    exact Weekday.afterThursday_succ_mod (by omega)

/-- A leap second at the end of a Saturday in 1969, and a clock that is an hour ahead: it shows the
last minute of the first hour of the Sunday, and then the first minute of the second hour. -/
theorem clock_goes_round_week_in_leap_second :
    counted.Lawful ∧ Instant.InReach (-345601) 1999999999 3600
      ∧ ∃ r r', counted.clockReading? (-345601) 1999999999 3600 = some r
        ∧ (r.day.index * 1440 + r.minute.toNat : Int) = 59
        ∧ counted.clockReading? (-345541) 1999999999 3600 = some r' ∧ r'.minutes = 60 := by
  have hreach : Instant.InReach (-345601) 1999999999 3600 := by
    constructor <;> decide
  obtain ⟨r, hread, hweek, -, -, -, hnext, -⟩ := lawful_counted.clock_goes_round_week hreach
  obtain ⟨r', hread', hminutes⟩ := hnext (by decide) (by decide)
  have hfirst : (r.day.index * 1440 + r.minute.toNat : Int) = 59 := hweek.trans (by decide)
  refine ⟨lawful_counted, hreach, r, r', hread, hfirst, hread', ?_⟩
  rw [hminutes, Reading.minutes]
  omega

end Calendar

end StationFinder
