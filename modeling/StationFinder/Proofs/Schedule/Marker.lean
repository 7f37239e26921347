import StationFinder.Proofs.Text.Between
import StationFinder.Proofs.Text.Padding
import StationFinder.Schedule

/-!
# Proofs/Schedule/Marker — the marker of a station that never closes is a short cut

The marker `L-D: 24H` is searched in the whole text before any clause is read.  As a clause it can
be read as well: it is a rule for all days and all minutes (`covers_of_trim_eq`).  So in a text in
which the marker only stands as a clause of its own (`MarkerStandsAlone`) nothing would change if it
were not searched for and the clauses were read one by one (`isOpen_parse_eq_someClauseCovers`).
-/

namespace StationFinder.Schedule

variable {raw before after clause : List Char} {t : Instant}

/-- What is in front of a place in a text and what is behind it leave a clause between them: blanks
aside, the one is empty or ends with a semicolon and the other is empty or begins with one. -/
def Bounds (before after : List Char) : Prop :=
  (Text.trimEnd before = [] ∨ (Text.trimEnd before).getLast? = some ';')
    ∧ (Text.trimStart after = [] ∨ (Text.trimStart after).head? = some ';')

/-- Wherever the marker stands in a text, it is a clause of its own, up to blanks. -/
def MarkerStandsAlone (raw : List Char) : Prop :=
  ∀ before after, before ++ alwaysMarker ++ after = raw → Bounds before after

/-- Whether one of the clauses of a text covers an instant.  Each of them is read on its own, and
those that cannot be read are passed over. -/
def someClauseCovers (raw : List Char) (t : Instant) : Bool :=
  (raw.splitOn ';').any fun clause =>
    match Rule.parse clause with
    | .ok rule => rule.covers t
    | .error _ => false

instance : Decidable (Bounds before after) := inferInstanceAs (Decidable (_ ∧ _))

theorem markerStandsAlone_iff : MarkerStandsAlone raw ↔ ∀ i < raw.length + 1,
    alwaysMarker <+: raw.drop i → Bounds (raw.take i) (raw.drop (i + alwaysMarker.length)) := by
  constructor
  · rintro h i - ⟨after, hafter⟩
    have hdrop : raw.drop (i + alwaysMarker.length) = after := by
      rw [← List.drop_drop, ← hafter, List.drop_left]
    rw [hdrop]
    refine h _ _ ?_
    rw [List.append_assoc, hafter, List.take_append_drop]
  · rintro h before after rfl
    have hlt : before.length < (before ++ alwaysMarker ++ after).length + 1 := by
      rw [List.length_append, List.length_append]
      omega
    have hplace := h before.length hlt
    rw [List.append_assoc, List.drop_left, List.take_left, ← List.drop_drop, List.drop_left,
      List.drop_left] at hplace
    exact hplace (List.prefix_append _ _)

instance : DecidablePred MarkerStandsAlone := fun _ => decidable_of_iff' _ markerStandsAlone_iff

/-! ## The marker as a clause -/

/-- **As a clause, the marker covers every instant.** -/
theorem covers_of_trim_eq (h : Text.trim clause = alwaysMarker) (t : Instant) :
    ∃ rule, Rule.parse clause = .ok rule ∧ rule.covers t = true := by
  refine ⟨⟨.monday, .sunday, .midnight, .last⟩, ?_, ?_⟩
  · rw [Rule.parse, h]
    decide
  · have hday : t.day.isWithin .monday .sunday = true := by cases t.day <;> rfl
    have hminute : t.minute.isWithin .midnight .last = true := by
      have hle : t.minute.count ≤ 1439 := Nat.le_of_lt_succ t.minute.count_lt
      simp [Minute.isWithin, Week.between, Minute.midnight, Minute.last, hle]
    rw [Rule.covers, hday, hminute]
    rfl

/-- Where the marker stands alone, it is one of the clauses. -/
theorem exists_clause_of_bounds (h : Bounds before after) :
    ∃ clause ∈ (before ++ alwaysMarker ++ after).splitOn ';', Text.trim clause = alwaysMarker := by
  obtain ⟨l, hl, hbefore⟩ := Text.exists_eq_trimEnd_append before
  obtain ⟨r, hr, hafter⟩ := Text.exists_eq_append_trimStart after
  have hpadded : Text.IsPadded alwaysMarker (l ++ alwaysMarker ++ r) := ⟨l, r, hl, hr, rfl⟩
  refine ⟨l ++ alwaysMarker ++ r, ?_, Text.trim_eq_of_isPadded hpadded⟩
  have hsemicolon : ';' ∉ l ++ alwaysMarker ++ r :=
    Text.not_mem_of_isPadded hpadded (by decide) (by decide)
  have hfront := h.1.imp_right fun hlast => List.getLast?_eq_some_iff.mp hlast
  have hback := h.2.imp_right fun hhead => List.head?_eq_some_iff.mp hhead
  have hmem := Text.mem_splitOn hsemicolon hfront hback
  rwa [← List.append_assoc, ← List.append_assoc, ← hbefore, List.append_assoc _ r, ← hafter]
    at hmem

/-! ## Reading without the marker -/

/-- Blanks are no clause, so it does not matter whether they are looked at. -/
theorem rule?_eq_none_of_blank (h : Text.trim clause = []) : rule? clause = none := by
  rw [rule?, Rule.parse, h]
  rfl

theorem any_rule?_clauses (raw : List Char) (t : Instant) :
    ((clauses raw).filterMap rule?).any (·.covers t) = someClauseCovers raw t := by
  have hclause (clause : List Char) : (rule? clause).any (·.covers t)
      = match Rule.parse clause with
        | .ok rule => rule.covers t
        | .error _ => false := by
    rw [rule?]
    cases Rule.parse clause <;> rfl
  rw [someClauseCovers, clauses]
  induction raw.splitOn ';' with
  | nil => rfl
  | cons clause rest ih =>
    by_cases hblank : Text.trim clause = []
    · rw [List.filter_cons_of_neg (by simpa using hblank), ih, List.any_cons, ← hclause,
        rule?_eq_none_of_blank hblank]
      rfl
    · rw [List.filter_cons_of_pos (by simpa using hblank), List.any_cons, ← ih, ← hclause,
        List.filterMap_cons]
      cases rule? clause <;> rfl

/-- **The marker is a short cut.**  If it only stands as a clause of its own, up to blanks, then a
station is open by its opening hours exactly when one of the clauses covers the instant, each of
them read on its own and without a search for the marker. -/
theorem isOpen_parse_eq_someClauseCovers (raw : String) (t : Instant)
    (h : MarkerStandsAlone raw.toList) :
    (parse raw).isOpen t = someClauseCovers raw.toList t := by
  rcases hmarker : Text.contains alwaysMarker raw.toList with _ | _
  · rw [parse, hmarker]
    exact any_rule?_clauses raw.toList t
  · obtain ⟨before, after, hraw⟩ := Text.contains_iff.mp hmarker
    obtain ⟨clause, hmem, htrim⟩ := exists_clause_of_bounds (h before after hraw)
    obtain ⟨rule, hparse, hcovers⟩ := covers_of_trim_eq htrim t
    have hopen : someClauseCovers raw.toList t = true := by
      rw [someClauseCovers, List.any_eq_true]
      exact ⟨clause, hraw ▸ hmem, by rw [hparse]; exact hcovers⟩
    rw [parse, hmarker, hopen]
    rfl

/-- The marker twice, with blanks and another clause, a few minutes before that clause begins. -/
theorem isOpen_parse_marker_twice :
    MarkerStandsAlone "\tL-D: 24H ;S: 10:00-14:00;L-D: 24H".toList
      ∧ (parse "\tL-D: 24H ;S: 10:00-14:00;L-D: 24H").isOpen ⟨.saturday, ⟨597, by decide⟩⟩
        = someClauseCovers "\tL-D: 24H ;S: 10:00-14:00;L-D: 24H".toList
          ⟨.saturday, ⟨597, by decide⟩⟩ := by
  have halone : MarkerStandsAlone "\tL-D: 24H ;S: 10:00-14:00;L-D: 24H".toList := by decide
  exact ⟨halone, isOpen_parse_eq_someClauseCovers _ _ halone⟩

/-- Otherwise the two may differ: no clause can be read here, but the marker is found. -/
example : (parse "L-D: 24Horas").isOpen ⟨.monday, .midnight⟩ = true
    ∧ someClauseCovers "L-D: 24Horas".toList ⟨.monday, .midnight⟩ = false := by decide

end StationFinder.Schedule
