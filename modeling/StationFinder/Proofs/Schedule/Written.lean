import StationFinder.Proofs.Schedule.Grammar
import StationFinder.Proofs.Schedule.Join
import StationFinder.Proofs.Text.Between

/-!
# Proofs/Schedule/Written — opening hours that are written down are read as they were

A rule is written with both of its days or, if they are the same, with one (`Rule.IsWritten`).
Rules are written one after the other with semicolons in between; each may have blanks around it,
and between the semicolons there may be nothing but blanks (`Schedule.IsWritten`).  Such a text is
read as these rules and nothing of it is skipped (`Schedule.Gives`), which is proved piece by piece:
a semicolon puts together what two texts give (`Gives.join`).

The marker of a station that never closes has an `H`, and no written rule has one, not even a rule
for the whole week.
-/

namespace StationFinder

/-! ## Times -/

namespace Minute

variable {c : Char} {t : Minute}

/-- The characters of clock times. -/
def clockChars : List Char := ['0', '1', '2', '3', '4', '5', '6', '7', '8', '9', ':']

theorem isClock_write (t : Minute) : IsClock t.write t.hour t.minute :=
  .long (Nat.le_of_lt_succ t.hour_lt) (Nat.le_of_lt_succ t.minute_lt)

theorem mem_clockChars_of_mem_write (h : c ∈ t.write) : c ∈ clockChars := by
  have hall : ∀ n < 10, Text.Numeral.digitChar n ∈ clockChars := by decide
  have hdigits {n : Nat} (hn : n < 100) (h : c ∈ twoDigits n) : c ∈ clockChars := by
    simp only [twoDigits, List.mem_cons, List.not_mem_nil, or_false] at h
    rcases h with rfl | rfl
    · exact hall _ (by omega)
    · exact hall _ (by omega)
  have hhour := t.hour_lt
  have hminute := t.minute_lt
  rw [write, List.mem_append, List.mem_cons] at h
  rcases h with h | rfl | h
  · exact hdigits (by omega) h
  · decide
  · exact hdigits (by omega) h

theorem not_isBlank_of_mem_write (h : c ∈ t.write) : Text.isBlank c = false := by
  have hall : clockChars.all (!Text.isBlank ·) = true := by decide
  simpa using List.all_eq_true.mp hall c (mem_clockChars_of_mem_write h)

theorem trim_write (t : Minute) : Text.trim t.write = t.write :=
  Text.trim_of_forall fun _ => not_isBlank_of_mem_write

end Minute

/-! ## Rules -/

namespace Rule

variable {c : Char} {rule : Rule} {days core clause : List Char}

/-- The days of a rule are written both, or as one if they are the same. -/
inductive IsWrittenDays (rule : Rule) : List Char → Prop
  | range : IsWrittenDays rule [rule.firstDay.code, '-', rule.lastDay.code]
  | single (h : rule.firstDay = rule.lastDay) : IsWrittenDays rule [rule.firstDay.code]

/-- The times of a rule, as they are written. -/
def writeTimes (rule : Rule) : List Char := rule.opens.write ++ '-' :: rule.closes.write

/-- A rule is written by its days, a colon with a space behind it, and its times. -/
def IsWritten (rule : Rule) (core : List Char) : Prop :=
  ∃ days, rule.IsWrittenDays days ∧ core = days ++ ([':', ' '] ++ rule.writeTimes)

theorem isWritten_write (rule : Rule) : rule.IsWritten rule.write := by
  refine ⟨rule.writeDays, ?_, by simp [write, writeTimes]⟩
  rw [writeDays]
  split
  · next h => exact .single h
  · exact .range

/-- The characters of rules. -/
def alphabet : List Char := ['D', 'L', 'M', 'X', 'J', 'V', 'S', '-', ' '] ++ Minute.clockChars

theorem code_mem_alphabet (day : Day) : day.code ∈ alphabet := by cases day <;> decide

theorem IsWrittenDays.mem_alphabet (h : rule.IsWrittenDays days) : ∀ c ∈ days, c ∈ alphabet := by
  have hhyphen : '-' ∈ alphabet := by decide
  cases h with
  | range => simp [code_mem_alphabet, hhyphen]
  | single => simp [code_mem_alphabet]

theorem IsWrittenDays.spellsDays (h : rule.IsWrittenDays days) :
    SpellsDays days rule.firstDay rule.lastDay := by
  have hpadded (day : Day) : Text.IsPadded [day.code] [day.code] := ⟨[], [], by simp⟩
  cases h with
  | range => exact .range (hpadded _) (hpadded _)
  | single h =>
    rw [← h]
    exact .single (hpadded _)

theorem IsWrittenDays.colon_not_mem (h : rule.IsWrittenDays days) : ':' ∉ days := by
  have hcode (day : Day) : ':' ≠ day.code := by cases day <;> decide
  cases h with
  | range => simp [hcode]
  | single => simp [hcode]

theorem IsWrittenDays.head? (h : rule.IsWrittenDays days) :
    days.head? = some rule.firstDay.code := by
  cases h <;> rfl

theorem mem_alphabet_of_mem_writeTimes (h : c ∈ rule.writeTimes) : c ∈ alphabet := by
  rw [writeTimes, List.mem_append, List.mem_cons] at h
  rcases h with h | rfl | h
  · exact List.mem_append_right _ (Minute.mem_clockChars_of_mem_write h)
  · decide
  · exact List.mem_append_right _ (Minute.mem_clockChars_of_mem_write h)

theorem not_isBlank_of_mem_writeTimes (h : c ∈ rule.writeTimes) : Text.isBlank c = false := by
  rw [writeTimes, List.mem_append, List.mem_cons] at h
  rcases h with h | rfl | h
  · exact Minute.not_isBlank_of_mem_write h
  · decide
  · exact Minute.not_isBlank_of_mem_write h

theorem spellsTimes_writeTimes (rule : Rule) :
    SpellsTimes (Text.trim rule.writeTimes) rule.opens rule.closes := by
  rw [Text.trim_of_forall fun _ => not_isBlank_of_mem_writeTimes]
  have hhyphen : '-' ∉ rule.opens.write := fun h =>
    absurd (Minute.mem_clockChars_of_mem_write h) (by decide)
  refine .span hhyphen ?_ (.clock ?_)
  · rw [Minute.trim_write]
    exact Minute.isClock_write _
  · rw [Minute.trim_write]
    exact Minute.isClock_write _

namespace IsWritten

variable (h : rule.IsWritten core)

include h

theorem mem_alphabet (hc : c ∈ core) : c ∈ alphabet := by
  have hseparator : [':', ' '] ⊆ alphabet := by decide
  obtain ⟨days, hdays, rfl⟩ := h
  rw [List.mem_append, List.mem_append] at hc
  rcases hc with hc | hc | hc
  · exact hdays.mem_alphabet c hc
  · exact hseparator hc
  · exact mem_alphabet_of_mem_writeTimes hc

/-- There are no blanks to be taken off. -/
theorem trim_eq : Text.trim core = core := by
  obtain ⟨days, hdays, rfl⟩ := h
  have hcode (day : Day) : Text.isBlank day.code = false := by cases day <;> decide
  refine Text.trim_of_ends (fun c hc => ?_) fun c hc => ?_
  · rw [List.head?_append, hdays.head?] at hc
    cases hc
    exact hcode _
  · have hne : rule.writeTimes ≠ [] := by simp [writeTimes]
    rw [List.getLast?_append_of_ne_nil _ (by simp), List.getLast?_append_of_ne_nil _ hne] at hc
    exact not_isBlank_of_mem_writeTimes (List.mem_of_mem_getLast? hc)

theorem ne_nil : core ≠ [] := by
  obtain ⟨days, -, rfl⟩ := h
  simp

theorem spells (hclause : Text.IsPadded core clause) : Spells clause rule := by
  rw [Spells, Text.trim_eq_of_isPadded hclause, h.trim_eq]
  obtain ⟨days, hdays, rfl⟩ := h
  have hcut : Text.cut? [':', ' '] (days ++ ([':', ' '] ++ rule.writeTimes))
      = some (days, rule.writeTimes) :=
    Text.cut?_append_of_not_mem (by decide) hdays.colon_not_mem _
  exact ⟨days, rule.writeTimes, Text.cut?_eq_some_iff.mp hcut, hdays.spellsDays,
    spellsTimes_writeTimes rule⟩

end IsWritten

/-- **A rule that is written is read as this rule**, whatever blanks are around it. -/
theorem parse_of_isWritten (h : rule.IsWritten core) (hclause : Text.IsPadded core clause) :
    parse clause = .ok rule := parse_of_spells (h.spells hclause)

end Rule

/-! ## Opening hours -/

namespace Schedule

variable {a b piece core : List Char} {pieces : List (List Char)} {rule : Rule}
  {rules rules' : List Rule}

/-- A text is read as some rules, and nothing of it is skipped. -/
structure Gives (raw : List Char) (rules : List Rule) : Prop where
  parse_eq : parse (String.ofList raw) = .byRules rules
  skipped_eq : skipped (String.ofList raw) = []

/-- The pieces of a text that some rules are written in, in their order: a rule each, with any
blanks around it, or nothing but blanks. -/
inductive IsWritten : List Rule → List (List Char) → Prop
  | nil : IsWritten [] []
  | blank {piece : List Char} {rules : List Rule} {pieces : List (List Char)}
      (hpiece : ∀ c ∈ piece, Text.isBlank c = true) (h : IsWritten rules pieces) :
      IsWritten rules (piece :: pieces)
  | rule {core piece : List Char} {rule : Rule} {rules : List Rule} {pieces : List (List Char)}
      (hrule : rule.IsWritten core) (hpiece : Text.IsPadded core piece)
      (h : IsWritten rules pieces) : IsWritten (rule :: rules) (piece :: pieces)

theorem clauses_of_not_mem (h : ';' ∉ piece) :
    clauses piece = if Text.trim piece = [] then [] else [piece] := by
  rw [clauses, List.splitOn_eq_singleton h]
  by_cases htrim : Text.trim piece = []
  · simp [htrim]
  · simp [htrim]

namespace Gives

/-- The marker of a station that never closes has an `H`, so without one the clauses count. -/
theorem of_clauses (h : 'H' ∉ piece) (hrules : (clauses piece).filterMap rule? = rules)
    (hskipped : (clauses piece).filterMap skipped? = []) : Gives piece rules := by
  have hmarker : Text.contains alwaysMarker (String.ofList piece).toList = false := by
    rw [String.toList_ofList, ← Bool.not_eq_true, Text.contains_iff]
    intro hwithin
    exact h (hwithin.subset (by decide))
  constructor
  · rw [parse, hmarker, String.toList_ofList, hrules]
    rfl
  · rw [skipped, hmarker, String.toList_ofList, hskipped]
    rfl

theorem of_blank (h : ∀ c ∈ piece, Text.isBlank c = true) : Gives piece [] := by
  have hpadded := Text.isPadded_nil h
  have hsemicolon : ';' ∉ piece := Text.not_mem_of_isPadded hpadded (by decide) List.not_mem_nil
  have hmarker : 'H' ∉ piece := Text.not_mem_of_isPadded hpadded (by decide) List.not_mem_nil
  have hclauses : clauses piece = [] := by
    rw [clauses_of_not_mem hsemicolon, Text.trim_eq_of_isPadded hpadded]
    rfl
  refine of_clauses hmarker ?_ ?_ <;> rw [hclauses] <;> rfl

theorem of_isWritten (h : rule.IsWritten core) (hpiece : Text.IsPadded core piece) :
    Gives piece [rule] := by
  have hsemicolon : ';' ∉ piece :=
    Text.not_mem_of_isPadded hpiece (by decide) fun hmem => absurd (h.mem_alphabet hmem) (by decide)
  have hmarker : 'H' ∉ piece :=
    Text.not_mem_of_isPadded hpiece (by decide) fun hmem => absurd (h.mem_alphabet hmem) (by decide)
  have hparse := Rule.parse_of_isWritten h hpiece
  have hclauses : clauses piece = [piece] := by
    rw [clauses_of_not_mem hsemicolon, Text.trim_eq_of_isPadded hpiece, h.trim_eq, if_neg h.ne_nil]
  refine of_clauses hmarker ?_ ?_
  · simp [hclauses, rule?, hparse, Except.toOption]
  · simp [hclauses, skipped?, hparse]

/-- **A semicolon puts together what two texts give.** -/
theorem join (ha : Gives a rules) (hb : Gives b rules') :
    Gives (a ++ ';' :: b) (rules ++ rules') := by
  have hjoin : String.ofList (a ++ ';' :: b) = String.ofList a ++ ";" ++ String.ofList b := by
    simp [← String.toList_inj]
  constructor
  · rw [hjoin, parse_join, ha.parse_eq, hb.parse_eq]
    rfl
  · rw [hjoin, skipped_join (by rw [ha.parse_eq]; rfl) (by rw [hb.parse_eq]; rfl), ha.skipped_eq,
      hb.skipped_eq]
    rfl

theorem intercalate_cons (hpiece : Gives piece rules)
    (hpieces : Gives ([';'].intercalate pieces) rules') :
    Gives ([';'].intercalate (piece :: pieces)) (rules ++ rules') := by
  cases pieces with
  | nil =>
    -- there is no semicolon, and nothing gives no rules
    obtain rfl : rules' = [] := (byRules.inj hpieces.parse_eq).symm
    rw [List.intercalate_singleton, List.append_nil]
    exact hpiece
  | cons next pieces =>
    rw [List.intercalate_cons_cons, List.append_assoc]
    exact hpiece.join hpieces

end Gives

/-- **Rules that are written are read as these rules**, and nothing is skipped. -/
theorem IsWritten.gives (h : IsWritten rules pieces) : Gives ([';'].intercalate pieces) rules := by
  induction h with
  | nil => exact ⟨rfl, rfl⟩
  | blank hpiece _ ih => exact (Gives.of_blank hpiece).intercalate_cons ih
  | rule hrule hpiece _ ih => exact (Gives.of_isWritten hrule hpiece).intercalate_cons ih

/-- Rules are written in one way by `write`. -/
theorem isWritten_write (rules : List Rule) : IsWritten rules (rules.map Rule.write) := by
  induction rules with
  | nil => exact .nil
  | cons rule rules ih => exact .rule rule.isWritten_write ⟨[], [], by simp⟩ ih

/-- **Opening hours that are written down are read as they were.**  However some rules are written,
in their order and with semicolons in between, they are read as these rules and not as a station
that never closes, and nothing is skipped.  So opening hours that have been read, well formed or
not, come out the same when they are written down and read again, unless they never close. -/
theorem parse_written :
    (∀ rules pieces, IsWritten rules pieces →
      parse (String.ofList ([';'].intercalate pieces)) = .byRules rules
        ∧ skipped (String.ofList ([';'].intercalate pieces)) = [])
    ∧ ∀ raw, parse raw ≠ .always → parse (String.ofList (write (parse raw).rules)) = parse raw := by
  constructor
  · intro rules pieces h
    exact ⟨h.gives.parse_eq, h.gives.skipped_eq⟩
  · intro raw h
    rcases hparse : parse raw with _ | rules
    · exact absurd hparse h
    · exact (isWritten_write rules).gives.parse_eq

/-- Two rules with blanks and semicolons of all sorts around them.  The first one is for the whole
week, but it is not a station that never closes. -/
theorem parse_written_two :
    let week : Rule := ⟨.monday, .sunday, .midnight, .last⟩
    let saturday : Rule := ⟨.saturday, .saturday, ⟨600, by decide⟩, ⟨840, by decide⟩⟩
    parse ";\tL-D: 00:00-23:59 ; ;S-S: 10:00-14:00" = .byRules [week, saturday]
      ∧ parse (String.ofList (write (parse "L: 9:30-24:00; ?").rules))
        = parse "L: 9:30-24:00; ?" := by
  intro week saturday
  have hwritten : IsWritten [week, saturday]
      [[], "\tL-D: 00:00-23:59 ".toList, [' '], "S-S: 10:00-14:00".toList] := by
    have hblank {c : Char} (hc : Text.isBlank c = true) : ∀ c' ∈ [c], Text.isBlank c' = true :=
      List.forall_mem_singleton.mpr hc
    exact .blank (List.forall_mem_nil _) (.rule ⟨_, .range, rfl⟩
      ⟨['\t'], [' '], hblank (by decide), hblank (by decide), by decide⟩
      (.blank (hblank (by decide))
        (.rule ⟨_, .range, rfl⟩ ⟨[], [], by simp, by simp, by decide⟩ .nil)))
  obtain ⟨hparse, hagain⟩ := parse_written
  exact ⟨(hparse _ _ hwritten).1, hagain _ (by decide)⟩

end Schedule

end StationFinder
