import StationFinder.Schedule
import Mathlib.Data.Fintype.EquivFin
import Mathlib.Data.Set.Card
import Mathlib.Order.Interval.Finset.Fin

/-!
# Proofs/Schedule/Coverage — which instants of the week a schedule covers, and how many

`Day.since` and `Minute.since` count steps round the cycle of the days and the cycle of the minutes,
as remainders of differences.  A rule covers an instant when no more steps lead to it than to the
end of the rule, for the day and for the minute (`Rule.covers_iff`).  A stretch has one place more
than steps (`Week.ncard_stretch`), which gives the number of instants that a rule covers; and a step
count does not change when both of its ends move on (`Day.since_shift`, `Minute.since_shift`), so a
schedule that is moved on covers what it covered.
-/

namespace StationFinder

/-- Of the things that have their places on a cycle, those to which no more steps lead from one of
them than to another one are one more than these steps: turning the cycle takes them to the places
that come first. -/
theorem Week.ncard_stretch {α : Type} {n : Nat} [NeZero n] (place : α ≃ Fin n) (first last : α) :
    {x | place x - place first ≤ place last - place first}.ncard
      = (place last - place first : Fin n) + 1 := by
  let turn := place.trans (Equiv.subRight (place first))
  have hturned : {x | place x - place first ≤ place last - place first}
      = Set.preimage turn ↑(Finset.Iic (place last - place first)) := by
    ext x
    simp [turn]
  have honto : ↑(Finset.Iic (place last - place first)) ⊆ Set.range turn := by
    rw [turn.range_eq_univ]
    exact Set.subset_univ _
  rw [hturned, Set.ncard_preimage_of_injective_subset_range turn.injective honto,
    Set.ncard_coe_finset, Fin.card_Iic]

/-! ## Days -/

namespace Day

/-- The places of the days. -/
def place : Day ≃ Fin 7 where
  toFun day := ⟨day.index, day.index_lt⟩
  invFun n := afterSunday n
  left_inv day := by cases day <;> rfl
  right_inv n := Fin.ext ((index_afterSunday n).trans (Nat.mod_eq_of_lt n.isLt))

/-- How many days after `first` a day comes next. -/
def since (day first : Day) : Int := ((day.index : Int) - first.index) % 7

/-- The day a number of days later, or earlier where the number is negative. -/
def shift (day : Day) (days : Int) : Day := afterSunday ((day.index + days) % 7).toNat

variable {day first last : Day}

theorem since_eq (day first : Day) : day.since first = (day.place - first.place : Fin 7) := by
  have hday := day.index_lt
  have hfirst := first.index_lt
  simp only [since, place, Equiv.coe_fn_mk, Fin.sub_def]
  omega

/-- **A day lies on a stretch of days exactly when it comes no later than the last one**, counted
from the first one. -/
theorem isWithin_iff : day.isWithin first last = true ↔ day.since first ≤ last.since first := by
  have hday := day.index_lt
  have hfirst := first.index_lt
  have hlast := last.index_lt
  rw [isWithin, Week.between_iff hfirst hlast hday, Week.stepsFrom, Week.stepsFrom, since, since]
  omega

/-- A stretch of days has one day more than steps. -/
theorem ncard_isWithin (first last : Day) :
    ({day : Day | day.isWithin first last = true}.ncard : Int) = last.since first + 1 := by
  have hplaces : {day : Day | day.isWithin first last = true}
      = {day | day.place - first.place ≤ last.place - first.place} := by
    ext day
    rw [Set.mem_ofPred_eq, isWithin_iff, since_eq, since_eq, Int.ofNat_le, ← Fin.le_def]
    rfl
  rw [hplaces, Week.ncard_stretch, since_eq]
  rfl

theorem index_shift (day : Day) (days : Int) :
    ((day.shift days).index : Int) = (day.index + days) % 7 := by
  rw [shift, index_afterSunday]
  omega

/-- As many days lie between two days that are both moved on. -/
theorem since_shift (day first : Day) (days : Int) :
    (day.shift days).since (first.shift days) = day.since first := by
  rw [since, since, index_shift, index_shift]
  omega

end Day

/-! ## Minutes -/

namespace Minute

/-- The places of the minutes. -/
def place : Minute ≃ Fin 1440 where
  toFun t := ⟨t.count, t.count_lt⟩
  invFun n := ⟨n, n.isLt⟩
  left_inv _ := rfl
  right_inv _ := rfl

/-- How many minutes after `first` the clock shows a time next. -/
def since (t first : Minute) : Int := ((t.count : Int) - first.count) % 1440

/-- The time a number of minutes later, or earlier where the number is negative. -/
def shift (t : Minute) (minutes : Int) : Minute where
  count := ((t.count + minutes) % 1440).toNat
  count_lt := by omega

variable {t first last : Minute}

theorem since_eq (t first : Minute) : t.since first = (t.place - first.place : Fin 1440) := by
  have ht := t.count_lt
  have hfirst := first.count_lt
  simp only [since, place, Equiv.coe_fn_mk, Fin.sub_def]
  omega

/-- **A time lies on a stretch of minutes exactly when it comes no later than the last one**,
counted from the first one, or the two are the same. -/
theorem isWithin_iff : t.isWithin first last = true
    ↔ first = last ∨ t.since first ≤ last.since first := by
  have ht := t.count_lt
  have hfirst := first.count_lt
  have hlast := last.count_lt
  rw [isWithin, Bool.or_eq_true, decide_eq_true_iff, Week.between_iff hfirst hlast ht,
    Week.stepsFrom, Week.stepsFrom, since, since]
  refine or_congr_right ?_
  omega

theorem card_eq : Nat.card Minute = 1440 := by
  rw [Nat.card_congr place, Nat.card_fin]

/-- A stretch of minutes has one minute more than steps, unless it is the whole day. -/
theorem ncard_isWithin (first last : Minute) :
    ({t : Minute | t.isWithin first last = true}.ncard : Int)
      = if first = last then 1440 else last.since first + 1 := by
  split
  · next h =>
    have hall : {t : Minute | t.isWithin first last = true} = Set.univ := by
      ext t
      simp [isWithin_iff, h]
    rw [hall, Set.ncard_univ, card_eq]
    rfl
  · next h =>
    have hplaces : {t : Minute | t.isWithin first last = true}
        = {t | t.place - first.place ≤ last.place - first.place} := by
      ext t
      rw [Set.mem_ofPred_eq, isWithin_iff, or_iff_right h, since_eq, since_eq, Int.ofNat_le,
        ← Fin.le_def]
      rfl
    rw [hplaces, Week.ncard_stretch, since_eq]
    rfl

theorem count_shift (t : Minute) (minutes : Int) :
    ((t.shift minutes).count : Int) = (t.count + minutes) % 1440 := by
  simp only [shift]
  omega

/-- As many minutes lie between two times that are both moved on. -/
theorem since_shift (t first : Minute) (minutes : Int) :
    (t.shift minutes).since (first.shift minutes) = t.since first := by
  rw [since, since, count_shift, count_shift]
  omega

theorem shift_inj {minutes : Int} : first.shift minutes = last.shift minutes ↔ first = last := by
  refine ⟨fun h => ?_, fun h => h ▸ rfl⟩
  have hfirst := first.count_lt
  have hlast := last.count_lt
  have hcount := congrArg (fun t => (t.count : Int)) h
  simp only [count_shift] at hcount
  cases first
  cases last
  simp only [mk.injEq] at *
  omega

end Minute

/-! ## Rules and schedules -/

namespace Instant

/-- The instants of the week are pairs of a day and a minute. -/
def parts : Instant ≃ Day × Minute where
  toFun t := (t.day, t.minute)
  invFun p := ⟨p.1, p.2⟩
  left_inv _ := rfl
  right_inv _ := rfl

/-- The instant with its day and its minute moved on, each round its own cycle. -/
def shift (t : Instant) (days minutes : Int) : Instant :=
  ⟨t.day.shift days, t.minute.shift minutes⟩

theorem card_eq : Nat.card Instant = 10080 := by
  rw [Nat.card_congr parts, Nat.card_prod, Nat.card_congr Day.place, Minute.card_eq, Nat.card_fin]

end Instant

namespace Rule

variable {rule : Rule} {t : Instant}

/-- The rule with its days and its times moved on. -/
def shift (rule : Rule) (days minutes : Int) : Rule where
  firstDay := rule.firstDay.shift days
  lastDay := rule.lastDay.shift days
  opens := rule.opens.shift minutes
  closes := rule.closes.shift minutes

theorem covers_iff : rule.covers t = true
    ↔ t.day.since rule.firstDay ≤ rule.lastDay.since rule.firstDay
      ∧ (rule.opens = rule.closes ∨ t.minute.since rule.opens ≤ rule.closes.since rule.opens) := by
  rw [covers, Bool.and_eq_true, Day.isWithin_iff, Minute.isWithin_iff]

/-- A rule covers each of its days with each of its minutes. -/
theorem ncard_covers (rule : Rule) : ({t | rule.covers t = true}.ncard : Int)
    = (rule.lastDay.since rule.firstDay + 1)
      * if rule.opens = rule.closes then 1440 else rule.closes.since rule.opens + 1 := by
  have hparts : {t | rule.covers t = true} = Set.preimage Instant.parts
      ({day : Day | day.isWithin rule.firstDay rule.lastDay = true}
        ×ˢ {t : Minute | t.isWithin rule.opens rule.closes = true}) := by
    ext t
    simp [covers, Instant.parts]
  rw [hparts, Set.ncard_preimage_of_injective_subset_range Instant.parts.injective (by simp),
    Set.ncard_prod, Int.natCast_mul, Day.ncard_isWithin, Minute.ncard_isWithin]

/-- **A rule that is moved on covers what it covered**, moved on as well. -/
theorem covers_shift (rule : Rule) (t : Instant) (days minutes : Int) :
    (rule.shift days minutes).covers (t.shift days minutes) = rule.covers t := by
  rw [Bool.eq_iff_iff, covers_iff, covers_iff]
  simp only [shift, Instant.shift, Day.since_shift, Minute.since_shift, Minute.shift_inj]

end Rule

namespace Schedule

/-- The schedule with all of its rules moved on. -/
def shift (days minutes : Int) : Schedule → Schedule
  | always => always
  | byRules rules => byRules (rules.map (·.shift days minutes))

/-- A schedule is open when it never closes or one of its rules covers the instant. -/
theorem isOpen_iff {schedule : Schedule} {t : Instant} : schedule.isOpen t = true
    ↔ schedule = always ∨ ∃ rule ∈ schedule.rules, rule.covers t = true := by
  cases schedule <;> simp [isOpen, rules]

/-- **A schedule is open on stretches of two cycles**, the days and the minutes.  It is open when it
never closes, or when there is a rule such that no more steps lead from its first day to the day
than to its last day and, unless its two times are the same, no more from its opening time to the
minute than to its closing time.  So of the 10080 instants of the week a single rule is open at as
many as its number of days times its number of minutes; and a schedule that is moved on by some days
and some minutes is open at an instant, moved on likewise, when it was open there before. -/
theorem isOpen_on_stretches :
    (∀ (schedule : Schedule) t, schedule.isOpen t = true ↔ schedule = always
        ∨ ∃ rule ∈ schedule.rules, t.day.since rule.firstDay ≤ rule.lastDay.since rule.firstDay
          ∧ (rule.opens = rule.closes
            ∨ t.minute.since rule.opens ≤ rule.closes.since rule.opens))
      ∧ Nat.card Instant = 10080
      ∧ (∀ rule : Rule, ({t | (byRules [rule]).isOpen t = true}.ncard : Int)
          = (rule.lastDay.since rule.firstDay + 1)
            * if rule.opens = rule.closes then 1440 else rule.closes.since rule.opens + 1)
      ∧ ∀ (schedule : Schedule) t days minutes,
          (schedule.shift days minutes).isOpen (t.shift days minutes) = schedule.isOpen t := by
  refine ⟨fun schedule t => ?covered, Instant.card_eq, fun rule => ?counted,
    fun schedule t days minutes => ?moved⟩
  case covered => simp only [isOpen_iff, Rule.covers_iff]
  case counted =>
    rw [← rule.ncard_covers]
    simp only [isOpen, List.any_cons, List.any_nil, Bool.or_false]
  case moved =>
    cases schedule with
    | always => rfl
    | byRules rules => simp [shift, isOpen, List.any_map, Function.comp_def, Rule.covers_shift]

end Schedule

end StationFinder
