import StationFinder.Text.Blank
import StationFinder.Text.Numeral
import StationFinder.Text.Utf8

/-!
# Area — provinces and municipalities

Both are known by an id of one to five digits, which is a text and no number: `1` and `01` are two
ids.  What is said here holds for both kinds of area, and an id of one kind is not one of the other.
-/

namespace StationFinder

/-- The kinds of area. -/
inductive AreaKind where
  | province
  | municipality
deriving DecidableEq, Repr

/-- The word for a kind of area within a sentence. -/
def AreaKind.word : AreaKind → String
  | province => "province"
  | municipality => "municipality"

/-- The word for a kind of area as a title. -/
def AreaKind.title : AreaKind → String
  | province => "Province"
  | municipality => "Municipality"

/-- What is wrong with a text that is no id. -/
inductive IdFault where
  | length
  | notDigits
deriving DecidableEq, Repr

/-- A text that is no id of an area. -/
structure InvalidAreaId where
  kind : AreaKind
  fault : IdFault
deriving DecidableEq, Repr

/-- The text of the fault. -/
def InvalidAreaId.message (invalid : InvalidAreaId) : String :=
  "invalid " ++ invalid.kind.word ++ " id: " ++ match invalid.fault with
    | .length => "must be 1 to 5 characters"
    | .notDigits => "must be ASCII digits"

/-- The greatest length of an id. -/
def maxIdLength : Nat := 5

/-- Whether a text is one to five digits. -/
def isIdText (s : List Char) : Bool :=
  s ≠ [] && s.length ≤ maxIdLength && s.all Text.Numeral.isDigit

/-- The id of an area. -/
structure AreaId (kind : AreaKind) where
  text : String
  isIdText : isIdText text.toList = true
deriving DecidableEq

abbrev ProvinceId := AreaId .province
abbrev MunicipalityId := AreaId .municipality

namespace AreaId

variable {kind : AreaKind}

/-- Takes a text for an id.  Its length, in bytes, is looked at first. -/
def parse (s : String) : Except InvalidAreaId (AreaId kind) :=
  if hl : s.toList = [] ∨ maxIdLength < Text.Utf8.byteLength s.toList then
    .error ⟨kind, .length⟩
  else if hd : s.toList.all Text.Numeral.isDigit then
    .ok ⟨s, by
      have := Text.Utf8.length_le_byteLength s.toList
      rw [not_or, Nat.not_lt] at hl
      simp only [StationFinder.isIdText, hd, Bool.and_true, Bool.and_eq_true, decide_eq_true_eq]
      exact ⟨hl.1, Nat.le_trans this hl.2⟩⟩
  else .error ⟨kind, .notDigits⟩

/-- Takes a text for an id after the blanks around it are taken off. -/
def parseTrimmed (s : String) : Except InvalidAreaId (AreaId kind) := parse (Text.trimmed s)

/-- The id as it is named in a diagnosis. -/
def diagnosis (id : AreaId kind) : String := kind.title ++ "Id(" ++ id.text ++ ")"

theorem byteLength_of_digits {s : List Char} (h : s.all Text.Numeral.isDigit = true) :
    Text.Utf8.byteLength s = s.length := by
  induction s with
  | nil => rfl
  | cons c s ih =>
    simp only [List.all_cons, Bool.and_eq_true] at h
    have hc : c.utf8Size = 1 := by
      have := h.1
      simp only [Text.Numeral.isDigit, Text.Numeral.digit?] at this
      split at this
      · next hr => exact Char.utf8Size_eq_one_iff.mpr (UInt32.le_trans hr.2 (by decide))
      · cases this
    have := ih h.2
    simp only [Text.Utf8.byteLength, List.length_cons]
    omega

/-- Every id is read from its own text. -/
@[simp] theorem parse_text (id : AreaId kind) : parse id.text = .ok id := by
  obtain ⟨s, h⟩ := id
  simp only [StationFinder.isIdText, Bool.and_eq_true, decide_eq_true_eq] at h
  have hb := byteLength_of_digits h.2
  rw [parse, dif_neg (by simp only [h.1.1, hb, false_or]; have := h.1.2; omega), dif_pos h.2]

/-- A text is read as the id that it is. -/
theorem parse_eq_ok_iff {text : String} {id : AreaId kind} :
    parse text = .ok id ↔ text = id.text := by
  constructor
  · intro h
    rw [parse] at h
    split at h
    · cases h
    · split at h
      · cases h
        rfl
      · cases h
  · rintro rfl
    exact parse_text id

/-- An id is its text. -/
theorem eq_of_text_eq {id id' : AreaId kind} (h : id.text = id'.text) : id = id' :=
  Except.ok.inj ((parse_text id).symm.trans (parse_eq_ok_iff.mpr h))

end AreaId

/-- A province or municipality. -/
structure Area (kind : AreaKind) where
  id : AreaId kind
  name : String
deriving DecidableEq

abbrev Province := Area .province
abbrev Municipality := Area .municipality

end StationFinder
