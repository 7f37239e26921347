import StationFinder.Proofs.Text.Letters
import StationFinder.Proofs.Text.Padding
import StationFinder.Proofs.Week.Clock
import StationFinder.Schedule.Rule

/-!
# Proofs/Schedule/Grammar — which clauses can be read, and why the others cannot

`Rule.Spells` is the grammar of a clause: days, the first colon with a space behind it, times.
`Rule.Refused` names the first thing that is wrong with a clause, in the order separator, shape of
the days, first day, last day, shape of the times, opening time, closing time.  Reading follows the
two (`parse_of_spells`, `parse_of_refused`) and one of them always holds (`spells_or_refused`), so
each clause either spells one rule or is refused for one reason.

A relation is given for each part of a clause, and for each part there is a lemma about what is read
of it and one about what is refused.
-/

namespace StationFinder.Rule

variable {clause days times s s' : List Char} {rule : Rule} {day first last : Day}
  {opens closes t : Minute} {fault : ClauseFault}

/-! ## The grammar -/

/-- A day is spelt by its letter, and two days with a hyphen between them spell a stretch.  Blanks
may stand around each letter. -/
inductive SpellsDays : List Char → Day → Day → Prop
  | single {s : List Char} {day : Day} : Text.IsPadded [day.code] s → SpellsDays s day day
  | range {s s' : List Char} {first last : Day} :
      Text.IsPadded [first.code] s → Text.IsPadded [last.code] s' →
      SpellsDays (s ++ '-' :: s') first last

/-- A closing time is spelt as a clock shows it, or as the end of the day, which is its last
minute. -/
inductive SpellsClosing : List Char → Minute → Prop
  | clock {s : List Char} {t : Minute} : Minute.IsClock s t.hour t.minute → SpellsClosing s t
  | endOfDay : SpellsClosing ['2', '4', ':', '0', '0'] Minute.last

/-- The times are spelt by the word for a whole day, or by two times around the first hyphen. -/
inductive SpellsTimes : List Char → Minute → Minute → Prop
  | wholeDay {s : List Char} : s = ['2', '4', 'H'] ∨ s = ['2', '4', 'h'] →
      SpellsTimes s Minute.midnight Minute.last
  | span {s s' : List Char} {opens closes : Minute} : '-' ∉ s →
      Minute.IsClock (Text.trim s) opens.hour opens.minute →
      SpellsClosing (Text.trim s') closes → SpellsTimes (s ++ '-' :: s') opens closes

/-- A clause spells a rule by its days and its times around the first separator. -/
def Spells (clause : List Char) (rule : Rule) : Prop :=
  ∃ days times, Text.IsFirstCut [':', ' '] (Text.trim clause) days times
    ∧ SpellsDays days rule.firstDay rule.lastDay
    ∧ SpellsTimes (Text.trim times) rule.opens rule.closes

/-! ## The reasons for a refusal -/

/-- A text that is no day's letter with blanks around it. -/
def NamesNoDay (s : List Char) : Prop := ∀ day : Day, ¬ Text.IsPadded [day.code] s

/-- The first thing that is wrong with the days of a clause: there are more than two of them, or the
first is unknown, or the last is. -/
inductive RefusedDays : List Char → ClauseFault → Prop
  | shape {days : List Char} : 2 ≤ days.count '-' →
      RefusedDays days (.dayRange (String.ofList (Text.trim days)))
  | single {s : List Char} : '-' ∉ s → NamesNoDay s →
      RefusedDays s (.unknownDay (String.ofList (Text.trim s)))
  | first {s s' : List Char} : '-' ∉ s → '-' ∉ s' → NamesNoDay s →
      RefusedDays (s ++ '-' :: s') (.unknownDay (String.ofList (Text.trim s)))
  | last {s s' : List Char} {day : Day} : '-' ∉ s' → Text.IsPadded [day.code] s →
      NamesNoDay s' → RefusedDays (s ++ '-' :: s') (.unknownDay (String.ofList (Text.trim s')))

/-- The first thing that is wrong with the times of a clause: there is one only, or the opening time
cannot be read, or the closing time cannot. -/
inductive RefusedTimes : List Char → ClauseFault → Prop
  | shape {s : List Char} : ¬ (s = ['2', '4', 'H'] ∨ s = ['2', '4', 'h']) → '-' ∉ s →
      RefusedTimes s (.timeRange (String.ofList s))
  | opening {s s' : List Char} {fault : TimeFault} : '-' ∉ s →
      (∀ opens : Minute, ¬ Minute.IsClock (Text.trim s) opens.hour opens.minute) →
      Minute.parse s = .error fault → RefusedTimes (s ++ '-' :: s') (.time fault)
  | closing {s s' : List Char} {opens : Minute} {fault : TimeFault} : '-' ∉ s →
      Minute.IsClock (Text.trim s) opens.hour opens.minute →
      (∀ closes, ¬ SpellsClosing (Text.trim s') closes) → Minute.parse s' = .error fault →
      RefusedTimes (s ++ '-' :: s') (.time fault)

/-- The first thing that is wrong with a clause. -/
inductive Refused : List Char → ClauseFault → Prop
  | separator {clause : List Char} :
      ¬ [':', ' '] <:+: Text.trim clause → Refused clause .noSeparator
  | days {clause days times : List Char} {fault : ClauseFault} :
      Text.IsFirstCut [':', ' '] (Text.trim clause) days times → RefusedDays days fault →
      Refused clause fault
  | times {clause days times : List Char} {first last : Day} {fault : ClauseFault} :
      Text.IsFirstCut [':', ' '] (Text.trim clause) days times → SpellsDays days first last →
      RefusedTimes (Text.trim times) fault → Refused clause fault

/-! ## Days -/

theorem parseDay_eq_ok_iff : parseDay s = .ok day ↔ Text.IsPadded [day.code] s := by
  have htrim : Text.trim [day.code] = [day.code] := by cases day <;> decide
  rw [← Text.trim_eq_iff_isPadded htrim, ← Day.ofCode?_eq_some, parseDay]
  cases Day.ofCode? s <;> simp

theorem parseDay_eq_error_iff :
    parseDay s = .error fault
      ↔ NamesNoDay s ∧ fault = .unknownDay (String.ofList (Text.trim s)) := by
  simp only [NamesNoDay, ← parseDay_eq_ok_iff, parseDay]
  cases Day.ofCode? s <;> simp [eq_comm]

/-- No hyphen stands at a day's letter. -/
theorem hyphen_not_mem_of_isPadded (h : Text.IsPadded [day.code] s) : '-' ∉ s := by
  have hcode : '-' ≠ day.code := by cases day <;> decide
  exact Text.not_mem_of_isPadded h (by decide) (by simpa using hcode)

theorem parseDays_single (hs : '-' ∉ s) :
    parseDays s = (parseDay s).map fun day => (day, day) := by
  rw [parseDays, List.splitOn_eq_singleton hs]
  rfl

theorem parseDays_range (hs : '-' ∉ s) (hs' : '-' ∉ s') :
    parseDays (s ++ '-' :: s')
      = (parseDay s).bind fun first => (parseDay s').map fun last => (first, last) := by
  rw [parseDays, List.splitOn_append_cons_self_of_not_mem hs, List.splitOn_eq_singleton hs']
  rfl

/-- A text has no hyphen, or one, or a second one behind the first. -/
theorem hyphens_of_days (days : List Char) :
    '-' ∉ days ∨ (∃ s s', days = s ++ '-' :: s' ∧ '-' ∉ s ∧ '-' ∉ s')
      ∨ ∃ s s' rest, days = s ++ '-' :: (s' ++ '-' :: rest) ∧ '-' ∉ s ∧ '-' ∉ s' := by
  by_cases hmem : '-' ∈ days
  · obtain ⟨s, s', rfl, hs⟩ := List.eq_append_cons_of_mem hmem
    by_cases hmem' : '-' ∈ s'
    · obtain ⟨s', rest, rfl, hs'⟩ := List.eq_append_cons_of_mem hmem'
      exact .inr (.inr ⟨s, s', rest, rfl, hs, hs'⟩)
    · exact .inr (.inl ⟨s, s', rfl, hs, hmem'⟩)
  · exact .inl hmem

theorem parseDays_shape (h : 2 ≤ days.count '-') :
    parseDays days = .error (.dayRange (String.ofList (Text.trim days))) := by
  rcases hyphens_of_days days with hs | ⟨s, s', rfl, hs, hs'⟩ | ⟨s, s', rest, rfl, hs, hs'⟩
  · simp [List.count_eq_zero_of_not_mem hs] at h
  · simp [List.count_eq_zero_of_not_mem hs, List.count_eq_zero_of_not_mem hs'] at h
  · rw [parseDays, List.splitOn_append_cons_self_of_not_mem hs,
      List.splitOn_append_cons_self_of_not_mem hs']
    -- what is behind the second hyphen has a piece of its own
    rcases hrest : rest.splitOn '-' with _ | ⟨piece, pieces⟩
    · exact absurd hrest (List.splitOn_ne_nil '-' rest)
    · rfl

theorem parseDays_of_spellsDays (h : SpellsDays days first last) :
    parseDays days = .ok (first, last) := by
  cases h with
  | single hs =>
    rw [parseDays_single (hyphen_not_mem_of_isPadded hs), parseDay_eq_ok_iff.mpr hs]
    rfl
  | range hs hs' =>
    rw [parseDays_range (hyphen_not_mem_of_isPadded hs) (hyphen_not_mem_of_isPadded hs'),
      parseDay_eq_ok_iff.mpr hs, parseDay_eq_ok_iff.mpr hs']
    rfl

theorem parseDays_of_refusedDays (h : RefusedDays days fault) : parseDays days = .error fault := by
  cases h with
  | shape hcount => exact parseDays_shape hcount
  | single hs hday => rw [parseDays_single hs, parseDay_eq_error_iff.mpr ⟨hday, rfl⟩]; rfl
  | first hs hs' hday => rw [parseDays_range hs hs', parseDay_eq_error_iff.mpr ⟨hday, rfl⟩]; rfl
  | last hs' hs hday =>
    rw [parseDays_range (hyphen_not_mem_of_isPadded hs) hs', parseDay_eq_ok_iff.mpr hs,
      parseDay_eq_error_iff.mpr ⟨hday, rfl⟩]
    rfl

/-- The days of a clause spell a stretch, or something is wrong with them. -/
theorem spellsDays_or_refusedDays (days : List Char) :
    (∃ first last, SpellsDays days first last) ∨ ∃ fault, RefusedDays days fault := by
  rcases hyphens_of_days days with hs | ⟨s, s', rfl, hs, hs'⟩ | ⟨s, s', rest, rfl, -, -⟩
  · rcases hday : parseDay days with fault | day
    · exact .inr ⟨_, .single hs (parseDay_eq_error_iff.mp hday).1⟩
    · exact .inl ⟨day, day, .single (parseDay_eq_ok_iff.mp hday)⟩
  · rcases hfirst : parseDay s with fault | first
    · exact .inr ⟨_, .first hs hs' (parseDay_eq_error_iff.mp hfirst).1⟩
    have hpad := parseDay_eq_ok_iff.mp hfirst
    rcases hlast : parseDay s' with fault | last
    · exact .inr ⟨_, .last hs' hpad (parseDay_eq_error_iff.mp hlast).1⟩
    · exact .inl ⟨first, last, .range hpad (parseDay_eq_ok_iff.mp hlast)⟩
  · refine .inr ⟨_, .shape ?_⟩
    simp only [List.count_append, List.count_cons_self]
    omega

/-! ## Times -/

theorem sameLetters_wholeDay_iff :
    Text.sameLetters s wholeDay = true ↔ s = ['2', '4', 'H'] ∨ s = ['2', '4', 'h'] := by
  constructor
  · intro h
    obtain ⟨c₀, _, rfl, h₀, h⟩ := Text.sameLetters_cons_iff.mp h
    obtain ⟨c₁, _, rfl, h₁, h⟩ := Text.sameLetters_cons_iff.mp h
    obtain ⟨c₂, _, rfl, h₂, h⟩ := Text.sameLetters_cons_iff.mp h
    rw [Text.sameLetters_nil_iff.mp h, Text.eq_of_toLower_eq (d := '2') (by decide) h₀,
      Text.eq_of_toLower_eq (d := '4') (by decide) h₁]
    rcases @Text.eq_or_eq_of_toLower_eq _ 'h' 'H' rfl h₂ with rfl | rfl
    · exact .inl rfl
    · exact .inr rfl
  · rintro (rfl | rfl) <;> decide

theorem parseTime_eq_ok_iff :
    parseTime s = .ok t ↔ Minute.IsClock (Text.trim s) t.hour t.minute := by
  rw [← Minute.parse_eq_ok_iff, parseTime]
  cases Minute.parse s <;> simp [Except.mapError]

theorem parseTime_of_error {fault : TimeFault} (h : Minute.parse s = .error fault) :
    parseTime s = .error (.time fault) := by
  rw [parseTime, h]
  rfl

/-- A clock does not show the end of the day. -/
theorem not_isClock_endOfDay {hour minute : Nat} : ¬ Minute.IsClock endOfDay hour minute := by
  intro h
  obtain ⟨hours, heq, hcolon, -, -, hvalue⟩ := h.exists_hours
  have hcut := (Text.cutAt?_eq_some_iff.mpr ⟨heq, hcolon⟩).symm
  have hcut' : Text.cutAt? ':' endOfDay = some (['2', '4'], ['0', '0']) := by decide
  obtain ⟨rfl, -⟩ := Prod.mk.inj (Option.some.inj (hcut.trans hcut'))
  have hhour : Text.Numeral.value? ['2', '4'] = some 24 := by decide
  have hle := h.hour_le
  rw [← Option.some.inj (hhour.symm.trans hvalue)] at hle
  omega

theorem parseClosing_eq_ok_iff : parseClosing s = .ok t ↔ SpellsClosing (Text.trim s) t := by
  rw [parseClosing]
  split
  · next hs =>
    rw [hs]
    constructor
    · intro h
      cases h
      exact .endOfDay
    · intro h
      cases h with
      | clock h => exact absurd h not_isClock_endOfDay
      | endOfDay => rfl
  · next hs =>
    rw [parseTime_eq_ok_iff]
    refine ⟨.clock, fun h => ?_⟩
    generalize Text.trim s = core at h hs
    cases h with
    | clock h => exact h
    | endOfDay => exact absurd rfl hs

/-- A closing time that cannot be read is reported like any other time. -/
theorem parseClosing_eq_error_iff : parseClosing s = .error fault ↔
    (∀ closes, ¬ SpellsClosing (Text.trim s) closes)
      ∧ ∃ why, Minute.parse s = .error why ∧ fault = .time why := by
  simp only [← parseClosing_eq_ok_iff]
  rw [parseClosing]
  split
  · simp
  · rw [parseTime]
    cases Minute.parse s <;> simp [Except.mapError, eq_comm]

theorem parseTimes_wholeDay (h : Text.sameLetters (Text.trim times) wholeDay = true) :
    parseTimes times = .ok (Minute.midnight, Minute.last) := by
  rw [parseTimes, if_pos h]

theorem parseTimes_shape (h : ¬ Text.sameLetters (Text.trim times) wholeDay = true)
    (hs : '-' ∉ Text.trim times) :
    parseTimes times = .error (.timeRange (String.ofList (Text.trim times))) := by
  rw [parseTimes, if_neg h, Text.cutAt?_eq_none_iff.mpr hs]

theorem parseTimes_span (h : Text.trim times = s ++ '-' :: s') (hs : '-' ∉ s) :
    parseTimes times
      = (parseTime s).bind fun opens => (parseClosing s').map fun closes => (opens, closes) := by
  have hhyphen : '-' ∈ Text.trim times := by rw [h]; exact List.mem_append_cons_self
  have hword : ¬ Text.sameLetters (Text.trim times) wholeDay = true := by
    rw [sameLetters_wholeDay_iff]
    rintro (hw | hw) <;> rw [hw] at hhyphen <;> exact absurd hhyphen (by decide)
  rw [parseTimes, if_neg hword, Text.cutAt?_eq_some_iff.mpr ⟨h, hs⟩]
  rfl

theorem parseTimes_of_spellsTimes (h : SpellsTimes (Text.trim times) opens closes) :
    parseTimes times = .ok (opens, closes) := by
  generalize hcore : Text.trim times = core at h
  cases h with
  | wholeDay hw => exact parseTimes_wholeDay (sameLetters_wholeDay_iff.mpr (hcore ▸ hw))
  | span hs hopens hcloses =>
    rw [parseTimes_span hcore hs, parseTime_eq_ok_iff.mpr hopens,
      parseClosing_eq_ok_iff.mpr hcloses]
    rfl

theorem parseTimes_of_refusedTimes (h : RefusedTimes (Text.trim times) fault) :
    parseTimes times = .error fault := by
  generalize hcore : Text.trim times = core at h
  cases h with
  | shape hw hs =>
    subst hcore
    exact parseTimes_shape (mt sameLetters_wholeDay_iff.mp hw) hs
  | opening hs _ hopens => rw [parseTimes_span hcore hs, parseTime_of_error hopens]; rfl
  | closing hs hopens hnone hcloses =>
    rw [parseTimes_span hcore hs, parseTime_eq_ok_iff.mpr hopens,
      parseClosing_eq_error_iff.mpr ⟨hnone, _, hcloses, rfl⟩]
    rfl

/-- The times of a clause spell a stretch, or something is wrong with them. -/
theorem spellsTimes_or_refusedTimes (core : List Char) :
    (∃ opens closes, SpellsTimes core opens closes) ∨ ∃ fault, RefusedTimes core fault := by
  by_cases hw : core = ['2', '4', 'H'] ∨ core = ['2', '4', 'h']
  · exact .inl ⟨_, _, .wholeDay hw⟩
  by_cases hmem : '-' ∈ core
  · obtain ⟨s, s', rfl, hs⟩ := List.eq_append_cons_of_mem hmem
    rcases hopens : Minute.parse s with why | opens
    · exact .inr ⟨_, .opening hs (Minute.exists_parse_eq_error_iff.mp ⟨why, hopens⟩) hopens⟩
    have hclock := Minute.parse_eq_ok_iff.mp hopens
    rcases hcloses : parseClosing s' with fault | closes
    · obtain ⟨hnone, why, hwhy, -⟩ := parseClosing_eq_error_iff.mp hcloses
      exact .inr ⟨_, .closing hs hclock hnone hwhy⟩
    · exact .inl ⟨opens, closes, .span hs hclock (parseClosing_eq_ok_iff.mp hcloses)⟩
  · exact .inr ⟨_, .shape hw hmem⟩

/-! ## Clauses -/

theorem parse_cut (h : Text.IsFirstCut [':', ' '] (Text.trim clause) days times) :
    parse clause = (parseDays days).bind fun (firstDay, lastDay) =>
      (parseTimes times).map fun (opens, closes) => ⟨firstDay, lastDay, opens, closes⟩ := by
  rw [parse, Text.cut?_eq_some_iff.mpr h]
  rfl

theorem parse_of_spells (h : Spells clause rule) : parse clause = .ok rule := by
  obtain ⟨days, times, hcut, hdays, htimes⟩ := h
  rw [parse_cut hcut, parseDays_of_spellsDays hdays, parseTimes_of_spellsTimes htimes]
  rfl

theorem parse_of_refused (h : Refused clause fault) : parse clause = .error fault := by
  cases h with
  | separator hnone => rw [parse, Text.cut?_eq_none_iff.mpr hnone]
  | days hcut hdays => rw [parse_cut hcut, parseDays_of_refusedDays hdays]; rfl
  | times hcut hdays htimes =>
    rw [parse_cut hcut, parseDays_of_spellsDays hdays, parseTimes_of_refusedTimes htimes]
    rfl

theorem spells_or_refused (clause : List Char) :
    (∃ rule, Spells clause rule) ∨ ∃ fault, Refused clause fault := by
  rcases hcut : Text.cut? [':', ' '] (Text.trim clause) with _ | ⟨days, times⟩
  · exact .inr ⟨_, .separator (Text.cut?_eq_none_iff.mp hcut)⟩
  rw [Text.cut?_eq_some_iff] at hcut
  rcases spellsDays_or_refusedDays days with ⟨first, last, hdays⟩ | ⟨fault, hdays⟩
  · rcases spellsTimes_or_refusedTimes (Text.trim times) with
      ⟨opens, closes, htimes⟩ | ⟨fault, htimes⟩
    · exact .inl ⟨⟨first, last, opens, closes⟩, days, times, hcut, hdays, htimes⟩
    · exact .inr ⟨fault, .times hcut hdays htimes⟩
  · exact .inr ⟨fault, .days hcut hdays⟩

/-- **A clause is read exactly when it spells a rule**, and is refused for the first thing that is
wrong with it. -/
theorem parse_follows_grammar (clause : List Char) :
    (∀ rule, parse clause = .ok rule ↔ Spells clause rule)
      ∧ ∀ fault, parse clause = .error fault ↔ Refused clause fault := by
  refine ⟨fun rule => ⟨fun h => ?_, parse_of_spells⟩, fun fault => ⟨fun h => ?_, parse_of_refused⟩⟩
  · rcases spells_or_refused clause with ⟨rule', hs⟩ | ⟨fault, hr⟩
    · cases (parse_of_spells hs).symm.trans h
      exact hs
    · cases (parse_of_refused hr).symm.trans h
  · rcases spells_or_refused clause with ⟨rule, hs⟩ | ⟨fault', hr⟩
    · cases (parse_of_spells hs).symm.trans h
    · cases (parse_of_refused hr).symm.trans h
      exact hr

/-- The space of the separator does not count at the end of a clause. -/
example : parse "L: ".toList = .error .noSeparator := by decide

end StationFinder.Rule
