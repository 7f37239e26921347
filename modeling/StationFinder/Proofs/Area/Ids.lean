import StationFinder.Area.Listing
import StationFinder.Proofs.Text.Digits
import StationFinder.Proofs.Text.Padding

/-!
# Proofs/Area/Ids — which texts are ids, and which entries of a listing are kept

An id is one to five ASCII digits (`IsDigits`).  The text of an id has no blanks and no characters
that mean something in an address, so it stays the same id wherever it is written.  A listing keeps
the entries whose id, blanks aside, is one, each with its name, and tells of every other entry, all
in the order of the listing (`Listing.areas_eq`, `Listing.dropped_eq`).
-/

namespace StationFinder

variable {kind : AreaKind} {d : String}

/-- A text of one to five ASCII digits. -/
def IsDigits (d : String) : Prop :=
  d.toList ≠ [] ∧ d.toList.length ≤ 5 ∧ ∀ c ∈ d.toList, '0' ≤ c ∧ c ≤ '9'

instance : DecidablePred IsDigits := fun d =>
  inferInstanceAs (Decidable (d.toList ≠ [] ∧ d.toList.length ≤ 5
    ∧ ∀ c ∈ d.toList, '0' ≤ c ∧ c ≤ '9'))

theorem isDigits_iff : IsDigits d ↔ isIdText d.toList = true := by
  have hdigit (c : Char) : Text.Numeral.isDigit c = true ↔ '0' ≤ c ∧ c ≤ '9' := by
    rw [Text.Numeral.isDigit, Text.Numeral.digit?]
    split <;> simp_all
  simp only [isIdText, Bool.and_eq_true, decide_eq_true_eq, List.all_eq_true, hdigit, and_assoc]
  rfl

theorem isDigits_of_isIdText (h : isIdText d.toList = true) : IsDigits d := isDigits_iff.mpr h

namespace AreaId

/-- One to five digits are read as an id. -/
theorem parse_of_isDigits (h : IsDigits d) : parse d = .ok (⟨d, isDigits_iff.mp h⟩ : AreaId kind) :=
  parse_eq_ok_iff.mpr rfl

/-- What is read as an id is one to five digits. -/
theorem isDigits_of_parse {id : AreaId kind} (h : parse d = .ok id) : IsDigits d :=
  parse_eq_ok_iff.mp h ▸ isDigits_of_isIdText id.isIdText

/-- **Why a text is no id**: it is empty or has more than five bytes, or else there is something in
it that is no digit. -/
theorem parse_of_not_isDigits (h : ¬ IsDigits d) : (parse d : Except _ (AreaId kind))
    = .error ⟨kind, if d.toList = [] ∨ 5 < Text.Utf8.byteLength d.toList then .length
        else .notDigits⟩ := by
  have hbound : maxIdLength = 5 := rfl
  rcases hparse : (parse d : Except _ (AreaId kind)) with fault | id
  · rw [parse] at hparse
    simp only [hbound] at hparse
    split at hparse
    · next hlength => rw [← Except.error.inj hparse, if_pos hlength]
    · next hlength =>
      split at hparse
      · cases hparse
      · rw [← Except.error.inj hparse, if_neg hlength]
  · exact absurd (isDigits_of_parse hparse) h

/-- The characters of an id are digits. -/
theorem mem_text {id : AreaId kind} {c : Char} (hc : c ∈ id.text.toList) : '0' ≤ c ∧ c ≤ '9' :=
  (isDigits_of_isIdText id.isIdText).2.2 c hc

/-- There is nothing to trim at an id. -/
theorem trimmed_text (id : AreaId kind) : Text.trimmed id.text = id.text := by
  have hdigits := List.all_eq_true.mp (Bool.and_eq_true_iff.mp id.isIdText).2
  rw [Text.trimmed, Text.trim_of_forall fun c hc => Text.Numeral.isBlank_of_isDigit (hdigits c hc),
    String.ofList_toList]

theorem text_ne_empty (id : AreaId kind) : id.text ≠ "" :=
  fun h => (isDigits_of_isIdText id.isIdText).1 (h ▸ rfl)

/-- A field that holds an id is filled in with it. -/
theorem nonBlank_text (id : AreaId kind) : Text.nonBlank id.text = some id.text := by
  rw [Text.nonBlank, trimmed_text, if_neg id.text_ne_empty]

end AreaId

/-! ## Listings -/

namespace ListingEntry

/-- An entry stands for an area: blanks aside, its id is one to five digits. -/
def IsUsable (entry : ListingEntry kind) : Prop := IsDigits (Text.trimmed entry.id)

instance : DecidablePred (@IsUsable kind) := fun entry =>
  inferInstanceAs (Decidable (IsDigits (Text.trimmed entry.id)))

/-- What there is to say of an entry that stands for no area: its id as it came, and what is wrong
with it. -/
def complaint (entry : ListingEntry kind) : Event where
  level := .debug
  message := "dropping " ++ kind.word ++ " with bad id"
  fields := [("id", entry.id), ("error", "invalid " ++ kind.word ++ " id: " ++
    if (Text.trimmed entry.id).toList = []
        ∨ 5 < Text.Utf8.byteLength (Text.trimmed entry.id).toList
      then "must be 1 to 5 characters" else "must be ASCII digits")]

variable {entry : ListingEntry kind}

theorem toArea_of_isUsable (h : entry.IsUsable) :
    entry.toArea = .ok ⟨⟨Text.trimmed entry.id, isDigits_iff.mp h⟩, entry.name⟩ := by
  rw [toArea, AreaId.parseTrimmed, AreaId.parse_of_isDigits h]
  rfl

theorem dropped?_of_isUsable (h : entry.IsUsable) : entry.dropped? = none := by
  rw [dropped?, toArea_of_isUsable h]

theorem dropped?_of_not_isUsable (h : ¬ entry.IsUsable) :
    entry.dropped? = some entry.complaint := by
  rw [dropped?, toArea, AreaId.parseTrimmed, AreaId.parse_of_not_isDigits h]
  by_cases hlength : (Text.trimmed entry.id).toList = []
      ∨ 5 < Text.Utf8.byteLength (Text.trimmed entry.id).toList
  · simp only [Except.map, InvalidAreaId.message, complaint, if_pos hlength]
  · simp only [Except.map, InvalidAreaId.message, complaint, if_neg hlength]

theorem toOption_of_not_isUsable (h : ¬ entry.IsUsable) : entry.toArea.toOption = none := by
  rw [toArea, AreaId.parseTrimmed, AreaId.parse_of_not_isDigits h]
  rfl

end ListingEntry

namespace Listing

/-- **A listing keeps the entries that stand for an area**, in their order, each with its id,
trimmed, and its name. -/
theorem areas_eq (listing : Listing kind) :
    listing.areas.map (fun area => (area.id.text, area.name))
      = (listing.filter (·.IsUsable)).map fun entry => (Text.trimmed entry.id, entry.name) := by
  rw [areas]
  induction listing with
  | nil => rfl
  | cons entry listing ih =>
    by_cases h : entry.IsUsable
    · rw [List.filterMap_cons, ListingEntry.toArea_of_isUsable h,
        List.filter_cons_of_pos (by simpa using h), List.map_cons, ← ih]
      rfl
    · have hnone : entry.toArea.toOption = none := ListingEntry.toOption_of_not_isUsable h
      rw [List.filterMap_cons, hnone, List.filter_cons_of_neg (by simpa using h), ih]

/-- **Every other entry is told of once**, in their order. -/
theorem dropped_eq (listing : Listing kind) :
    listing.dropped = (listing.filter (¬ ·.IsUsable)).map ListingEntry.complaint := by
  rw [dropped]
  induction listing with
  | nil => rfl
  | cons entry listing ih =>
    by_cases h : entry.IsUsable
    · rw [List.filterMap_cons_none (ListingEntry.dropped?_of_isUsable h),
        List.filter_cons_of_neg (by simpa using h), ih]
    · rw [List.filterMap_cons_some (ListingEntry.dropped?_of_not_isUsable h),
        List.filter_cons_of_pos (by simpa using h), List.map_cons, ih]

end Listing

end StationFinder
