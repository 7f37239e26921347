import StationFinder.Proofs.Text.Occurrence
import StationFinder.Schedule

/-!
# Proofs/Schedule/Join — texts of opening hours joined by semicolons

Reading turns the semicolon into `Schedule.either`: the schedule of a joined text is open when one
of the parts is (`parse_join`).  So nothing that stands behind a semicolon closes a station, an
unreadable clause has no influence, and neither the order of the clauses nor a repetition matters.

The marker `L-D: 24H` is searched in the whole text and the clauses come from its pieces; what makes
the two agree is that the marker has no semicolon and never stands across one.
-/

namespace StationFinder.Schedule

/-! ## Open when one of two schedules is -/

/-- The schedule that is open whenever one of two is. -/
def either : Schedule → Schedule → Schedule
  | always, _ => always
  | _, always => always
  | byRules rules, byRules rules' => byRules (rules ++ rules')

@[simp] theorem isAlways_either (s s' : Schedule) :
    (s.either s').isAlways = (s.isAlways || s'.isAlways) := by
  cases s <;> cases s' <;> rfl

@[simp] theorem isOpen_either (s s' : Schedule) (t : Instant) :
    (s.either s').isOpen t = (s.isOpen t || s'.isOpen t) := by
  cases s <;> cases s' <;> simp [either, isOpen]

@[simp] theorem either_never (s : Schedule) : s.either (byRules []) = s := by
  cases s <;> simp [either]

@[simp] theorem never_either (s : Schedule) : (byRules []).either s = s := by cases s <;> rfl

theorem either_eq_byRules {s s' : Schedule} (hs : s.isAlways = false) (hs' : s'.isAlways = false) :
    s.either s' = byRules (s.rules ++ s'.rules) := by
  cases s <;> cases s' <;> first | rfl | contradiction

/-! ## The marker -/

theorem contains_marker_join (a b : List Char) :
    Text.contains alwaysMarker (a ++ ';' :: b)
      = (Text.contains alwaysMarker a || Text.contains alwaysMarker b) := by
  rw [Bool.eq_iff_iff, Bool.or_eq_true, Text.contains_iff, Text.contains_iff, Text.contains_iff]
  exact Text.infix_append_cons_iff (by decide)

/-- A schedule never closes exactly when the marker stands in its text. -/
theorem isAlways_parse (raw : String) :
    (parse raw).isAlways = Text.contains alwaysMarker raw.toList := by
  rw [parse]; split <;> simp_all [isAlways]

/-! ## Joined texts -/

theorem toList_join (a b : String) : (a ++ ";" ++ b).toList = a.toList ++ ';' :: b.toList := by
  simp

theorem clauses_join (a b : List Char) : clauses (a ++ ';' :: b) = clauses a ++ clauses b := by
  rw [clauses, List.splitOn_append_cons_self, List.filter_append]; rfl

/-- **A joined text is open when one of its parts is.** -/
theorem parse_join (a b : String) : parse (a ++ ";" ++ b) = (parse a).either (parse b) := by
  simp only [parse, toList_join, contains_marker_join, clauses_join, List.filterMap_append]
  cases Text.contains alwaysMarker a.toList <;> cases Text.contains alwaysMarker b.toList <;> rfl

/-- What is skipped in the parts is skipped in the joined text, unless it never closes. -/
theorem skipped_join {a b : String} (ha : (parse a).isAlways = false)
    (hb : (parse b).isAlways = false) : skipped (a ++ ";" ++ b) = skipped a ++ skipped b := by
  rw [isAlways_parse] at ha hb
  simp [skipped, contains_marker_join, clauses_join, ha, hb]

/-- Without the marker, a clause that cannot be read stands for a schedule that is never open. -/
theorem parse_eq_never {clause : String} (hc : ';' ∉ clause.toList)
    (hm : Text.contains alwaysMarker clause.toList = false) (hr : rule? clause.toList = none) :
    parse clause = byRules [] := by
  have hall : ∀ piece ∈ clauses clause.toList, rule? piece = none := by
    intro piece hpiece
    rw [clauses, List.splitOn_eq_singleton hc] at hpiece
    rwa [List.mem_singleton.mp (List.mem_of_mem_filter hpiece)]
  rw [parse, hm, List.filterMap_eq_nil_iff.mpr hall]
  rfl

/-- Any number of joined texts are open when one of them is. -/
theorem isOpen_parse_intercalate (parts : List String) (t : Instant) :
    (parse (";".intercalate parts)).isOpen t = parts.any fun part => (parse part).isOpen t := by
  induction parts with
  | nil => rfl
  | cons part parts ih =>
    cases parts with
    | nil => simp
    | cons next parts => rw [String.intercalate_cons_cons, parse_join, isOpen_either, ih]; rfl

/-- **Reading turns semicolons into alternatives**, for texts that are well formed and for others.
The joined text never closes when one part does not; otherwise it has the rules of both parts and
skips what they skip.  So it is open exactly when one of them is: nothing behind a semicolon closes
a station, a clause that cannot be read changes nothing wherever it is put, and clauses may be
rearranged and repeated. -/
theorem parse_join_eq_alternatives (a b : String) :
    ((parse (a ++ ";" ++ b)).isAlways = true
        ↔ (parse a).isAlways = true ∨ (parse b).isAlways = true)
      ∧ ((parse a).isAlways = false → (parse b).isAlways = false →
          parse (a ++ ";" ++ b) = byRules ((parse a).rules ++ (parse b).rules)
            ∧ skipped (a ++ ";" ++ b) = skipped a ++ skipped b)
      ∧ (∀ t, (parse (a ++ ";" ++ b)).isOpen t = ((parse a).isOpen t || (parse b).isOpen t))
      ∧ (∀ t, (parse a).isOpen t = true → (parse (a ++ ";" ++ b)).isOpen t = true)
      ∧ (∀ clause : String, ';' ∉ clause.toList →
          Text.contains alwaysMarker clause.toList = false →
          (∃ fault, Rule.parse clause.toList = .error fault) →
          parse (a ++ ";" ++ clause ++ ";" ++ b) = parse (a ++ ";" ++ b)
            ∧ parse (clause ++ ";" ++ a) = parse a ∧ parse (a ++ ";" ++ clause) = parse a)
      ∧ (∀ parts parts' : List String, (∀ part, part ∈ parts ↔ part ∈ parts') →
          ∀ t, (parse (";".intercalate parts)).isOpen t
            = (parse (";".intercalate parts')).isOpen t) := by
  refine ⟨?always, fun ha hb => ⟨?rules, skipped_join ha hb⟩, fun t => ?either, fun t h => ?kept,
    fun clause hc hm ⟨fault, hf⟩ => ?inserted, fun parts parts' h t => ?rearranged⟩
  case always => rw [parse_join, isAlways_either, Bool.or_eq_true]
  case rules => rw [parse_join, either_eq_byRules ha hb]
  case either => rw [parse_join, isOpen_either]
  case kept => rw [parse_join, isOpen_either, h, Bool.true_or]
  case inserted =>
    have hnever : parse clause = byRules [] := parse_eq_never hc hm (by rw [rule?, hf]; rfl)
    simp only [parse_join, hnever, either_never, never_either, and_self]
  case rearranged =>
    rw [isOpen_parse_intercalate, isOpen_parse_intercalate, Bool.eq_iff_iff, List.any_eq_true,
      List.any_eq_true]
    exact exists_congr fun part => and_congr_left fun _ => h part

end StationFinder.Schedule
