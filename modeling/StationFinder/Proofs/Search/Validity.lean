import StationFinder.Proofs.Area.Ids
import StationFinder.Proofs.Search.Answer
import StationFinder.Proofs.Text.Letters

/-!
# Proofs/Search/Validity — which forms can be answered, and what is wrong with the others

All that counts of a field is its entry: the text without the blanks around it, or no text at all
where the field is absent (`SearchForm.entry`).  A form is checked by the entries of the province,
the municipality and the fuel, in this order, and the first one that is wrong is complained of
(`Search.mapError_ofForm_eq_error_iff`).  So neither blanks around the texts nor the difference
between a blank field and an absent one changes anything (`Search.ofForm_eq_of_entry_eq`).
-/

namespace StationFinder

namespace SearchForm

variable {form form' : SearchForm} {field : FormField}

/-- What a field holds, without the blanks around it; nothing if it is absent. -/
def entry (form : SearchForm) (field : FormField) : String :=
  Text.trimmed ((form.get field).getD "")

theorem filled?_eq (form : SearchForm) (field : FormField) :
    form.filled? field = if form.entry field = "" then none else some (form.entry field) := by
  rw [filled?, entry]
  cases form.get field with
  | none => exact (if_pos (by decide)).symm
  | some text => rw [Option.bind_some, Text.nonBlank, Option.getD_some]

theorem filled?_eq_none (h : form.entry field = "") : form.filled? field = none := by
  rw [filled?_eq, if_pos h]

theorem filled?_eq_some (h : form.entry field ≠ "") :
    form.filled? field = some (form.entry field) := by
  rw [filled?_eq, if_neg h]

theorem filled?_eq_some_iff {text : String} :
    form.filled? field = some text ↔ form.entry field = text ∧ text ≠ "" := by
  by_cases h : form.entry field = ""
  · rw [filled?_eq_none h, h]
    constructor
    · nofun
    · rintro ⟨rfl, hne⟩
      exact absurd rfl hne
  · rw [filled?_eq_some h, Option.some.injEq]
    exact ⟨fun heq => ⟨heq, heq ▸ h⟩, And.left⟩

/-- The box is ticked by a few words, in small letters or large ones. -/
theorem openNow_iff :
    form.openNow = true ↔ (form.entry .openBox).toLower ∈ ["on", "true", "1"] := by
  have hlower : ∀ word ∈ tickedTexts, word.toList.map Char.toLower = word.toList := by decide
  have hbox : form.openNow = isTicked (some ((form.get .openBox).getD "")) := by
    have hget : form.openNow = isTicked (form.get .openBox) := rfl
    rw [hget]
    cases form.get .openBox <;> rfl
  have hwords : ["on", "true", "1"] = tickedTexts := rfl
  rw [hbox, isTicked, Option.any_some, List.any_eq_true, hwords]
  constructor
  · rintro ⟨word, hword, hsame⟩
    have heq := (Text.sameLetters_iff_toLower (hlower word hword)).mp hsame
    exact heq ▸ hword
  · intro h
    exact ⟨_, h, (Text.sameLetters_iff_toLower (hlower _ h)).mpr rfl⟩

/-- How a field may be filled in otherwise: with blanks around its text, or with nothing but blanks
where it is absent. -/
inductive Respaced : Option String → Option String → Prop
  | unchanged (value : Option String) : Respaced value value
  | padded {text text' : String} (h : Text.IsPadded text.toList text'.toList) :
      Respaced (some text) (some text')
  | blank {text : String} (h : ∀ c ∈ text.toList, Text.isBlank c = true) : Respaced none (some text)

theorem Respaced.trimmed_eq {value value' : Option String} (h : Respaced value value') :
    Text.trimmed (value.getD "") = Text.trimmed (value'.getD "") := by
  cases h with
  | unchanged => rfl
  | padded h => exact congrArg String.ofList (Text.trim_eq_of_isPadded h).symm
  | blank h => exact congrArg String.ofList (Text.trim_eq_of_isPadded (Text.isPadded_nil h)).symm

end SearchForm

namespace Search

variable {form form' : SearchForm} {search : Search}

/-! ## Fields that are wrong -/

theorem provinceOf_of_blank (h : form.entry .province = "") :
    provinceOf form = .error .noProvince := by
  rw [provinceOf, SearchForm.filled?_eq_none h]

theorem provinceOf_of_not_isDigits (hne : form.entry .province ≠ "")
    (h : ¬ IsDigits (form.entry .province)) :
    provinceOf form = .error (.invalidProvince (form.entry .province)) := by
  simp only [provinceOf, SearchForm.filled?_eq_some hne, AreaId.parse_of_not_isDigits h]
  rfl

theorem municipalityOf_of_not_isDigits (hne : form.entry .municipality ≠ "")
    (h : ¬ IsDigits (form.entry .municipality)) :
    municipalityOf form = .error (.invalidMunicipality (form.entry .municipality)) := by
  simp only [municipalityOf, SearchForm.filled?_eq_some hne, AreaId.parse_of_not_isDigits h]
  rfl

theorem fuelOf_of_unknown (hne : form.entry .fuel ≠ "")
    (h : ∀ fuel : Fuel, form.entry .fuel ≠ fuel.key) :
    fuelOf form = .error (.unknownFuel (form.entry .fuel)) := by
  have hnone : Fuel.ofKey? (form.entry .fuel) = none := by
    rcases hfuel : Fuel.ofKey? (form.entry .fuel) with _ | fuel
    · rfl
    · exact absurd (Fuel.key_of_ofKey? hfuel).symm (h fuel)
  simp only [fuelOf, SearchForm.filled?_eq_some hne, hnone]

/-! ## Fields that are right -/

theorem IsDigits.ne_empty {text : String} (h : IsDigits text) : text ≠ "" :=
  fun hempty => h.1 (hempty ▸ rfl)

theorem exists_provinceOf_iff :
    (∃ province, provinceOf form = .ok province) ↔ IsDigits (form.entry .province) := by
  simp only [provinceOf_eq_ok_iff, SearchForm.filled?_eq_some_iff]
  constructor
  · rintro ⟨province, htext, -⟩
    exact htext ▸ isDigits_of_isIdText province.isIdText
  · intro h
    exact ⟨⟨_, isDigits_iff.mp h⟩, rfl, IsDigits.ne_empty h⟩

theorem exists_municipalityOf_iff : (∃ municipality, municipalityOf form = .ok municipality)
    ↔ form.entry .municipality = "" ∨ IsDigits (form.entry .municipality) := by
  simp only [municipalityOf_eq_ok_iff]
  constructor
  · rintro ⟨municipality, h⟩
    by_cases hblank : form.entry .municipality = ""
    · exact .inl hblank
    · rw [SearchForm.filled?_eq_some hblank, eq_comm, Option.map_eq_some_iff] at h
      obtain ⟨id, -, htext⟩ := h
      exact .inr (htext ▸ isDigits_of_isIdText id.isIdText)
  · rintro (hblank | h)
    · exact ⟨none, SearchForm.filled?_eq_none hblank⟩
    · exact ⟨some ⟨_, isDigits_iff.mp h⟩, SearchForm.filled?_eq_some (IsDigits.ne_empty h)⟩

theorem exists_fuelOf_iff : (∃ fuel, fuelOf form = .ok fuel)
    ↔ form.entry .fuel = "" ∨ ∃ fuel : Fuel, form.entry .fuel = fuel.key := by
  simp only [fuelOf_eq_ok_iff]
  constructor
  · rintro ⟨fuel, h⟩
    by_cases hblank : form.entry .fuel = ""
    · exact .inl hblank
    · rw [SearchForm.filled?_eq_some hblank, eq_comm, Option.map_eq_some_iff] at h
      obtain ⟨fuel, -, hkey⟩ := h
      exact .inr ⟨fuel, hkey.symm⟩
  · rintro (hblank | ⟨fuel, hkey⟩)
    · exact ⟨none, SearchForm.filled?_eq_none hblank⟩
    · have hne : fuel.key ≠ "" := by cases fuel <;> decide
      refine ⟨some fuel, ?_⟩
      rw [SearchForm.filled?_eq_some (hkey ▸ hne), hkey, Option.map_some]

/-! ## Forms -/

/-- A search is what the entries of a form ask for: in the municipality where one is entered and in
the province otherwise, for the fuel whose key is entered, if one is, and for open stations if the
box is ticked. -/
structure IsAskedBy (form : SearchForm) (search : Search) : Prop where
  kind : search.scope.kind
    = if form.entry .municipality = "" then .province else .municipality
  id : search.scope.id
    = if form.entry .municipality = "" then form.entry .province else form.entry .municipality
  fuel : search.fuel.map Fuel.key
    = if form.entry .fuel = "" then none else some (form.entry .fuel)
  openNow : search.openNow = true ↔ (form.entry .openBox).toLower ∈ ["on", "true", "1"]

/-- What is complained of in a form that cannot be answered: the first entry that is wrong, of those
of the province, the municipality and the fuel. -/
inductive Refused (form : SearchForm) : String → Prop
  | noProvince (hblank : form.entry .province = "") : Refused form "Please select a province."
  | province (hne : form.entry .province ≠ "") (h : ¬ IsDigits (form.entry .province)) :
      Refused form ("Invalid province id: " ++ form.entry .province)
  | municipality (hprovince : IsDigits (form.entry .province))
      (hne : form.entry .municipality ≠ "") (h : ¬ IsDigits (form.entry .municipality)) :
      Refused form ("Invalid municipality id: " ++ form.entry .municipality)
  | fuel (hprovince : IsDigits (form.entry .province))
      (hmunicipality : form.entry .municipality = "" ∨ IsDigits (form.entry .municipality))
      (hne : form.entry .fuel ≠ "") (h : ∀ fuel : Fuel, form.entry .fuel ≠ fuel.key) :
      Refused form ("Unknown fuel type: " ++ form.entry .fuel)

theorem exists_ofForm_iff : (∃ search, ofForm form = .ok search)
    ↔ IsDigits (form.entry .province)
      ∧ (form.entry .municipality = "" ∨ IsDigits (form.entry .municipality))
      ∧ (form.entry .fuel = "" ∨ ∃ fuel : Fuel, form.entry .fuel = fuel.key) := by
  rw [← exists_provinceOf_iff, ← exists_municipalityOf_iff, ← exists_fuelOf_iff, ofForm]
  simp only [exists_bind_eq_ok_iff, exists_pure_eq_ok, and_true, exists_and_right]

theorem isAskedBy_of_ofForm (h : ofForm form = .ok search) : search.IsAskedBy form := by
  obtain ⟨province, municipality, hasks, hscope⟩ := ofForm_eq_ok_iff.mp h
  obtain ⟨hprovince, -⟩ := SearchForm.filled?_eq_some_iff.mp hasks.province
  have hmunicipality := hasks.municipality
  have harea : search.scope.kind
        = (if form.entry .municipality = "" then .province else .municipality)
      ∧ search.scope.id = if form.entry .municipality = "" then form.entry .province
        else form.entry .municipality := by
    rw [hscope]
    by_cases hblank : form.entry .municipality = ""
    · rw [SearchForm.filled?_eq_none hblank, eq_comm, Option.map_eq_none_iff] at hmunicipality
      rw [hmunicipality, if_pos hblank, if_pos hblank]
      exact ⟨rfl, hprovince.symm⟩
    · rw [SearchForm.filled?_eq_some hblank, eq_comm, Option.map_eq_some_iff] at hmunicipality
      obtain ⟨id, rfl, htext⟩ := hmunicipality
      rw [if_neg hblank, if_neg hblank]
      exact ⟨rfl, htext⟩
  refine ⟨harea.1, harea.2, ?_, ?_⟩
  · rw [← hasks.fuel, SearchForm.filled?_eq]
  · rw [← hasks.openNow, SearchForm.openNow_iff]

/-- A form that is complained of is refused with the complaint, as a request that is wrong. -/
theorem mapError_ofForm_of_refused {message : String} (h : Refused form message) :
    (ofForm form).mapError Failure.ofForm = .error (.badRequest message) := by
  cases h with
  | noProvince hblank =>
    rw [ofForm, provinceOf_of_blank hblank]
    rfl
  | province hne h =>
    rw [ofForm, provinceOf_of_not_isDigits hne h]
    rfl
  | municipality hprovince hne h =>
    obtain ⟨province, hprovince⟩ := exists_provinceOf_iff.mpr hprovince
    rw [ofForm, hprovince, municipalityOf_of_not_isDigits hne h]
    rfl
  | fuel hprovince hmunicipality hne h =>
    obtain ⟨province, hprovince⟩ := exists_provinceOf_iff.mpr hprovince
    obtain ⟨municipality, hmunicipality⟩ := exists_municipalityOf_iff.mpr hmunicipality
    rw [ofForm, hprovince, hmunicipality, fuelOf_of_unknown hne h]
    rfl

/-- There is something to complain of, or the form can be answered. -/
theorem exists_refused_or_ofForm (form : SearchForm) :
    (∃ message, Refused form message) ∨ ∃ search, ofForm form = .ok search := by
  by_cases hblank : form.entry .province = ""
  case pos => exact .inl ⟨_, .noProvince hblank⟩
  by_cases hprovince : IsDigits (form.entry .province)
  case neg => exact .inl ⟨_, .province hblank hprovince⟩
  by_cases hmunicipality :
      form.entry .municipality = "" ∨ IsDigits (form.entry .municipality)
  case neg =>
    obtain ⟨hne, h⟩ := not_or.mp hmunicipality
    exact .inl ⟨_, .municipality hprovince hne h⟩
  by_cases hfuel : form.entry .fuel = "" ∨ ∃ fuel : Fuel, form.entry .fuel = fuel.key
  case neg =>
    obtain ⟨hne, h⟩ := not_or.mp hfuel
    exact .inl ⟨_, .fuel hprovince hmunicipality hne (not_exists.mp h)⟩
  exact .inr (exists_ofForm_iff.mpr ⟨hprovince, hmunicipality, hfuel⟩)

/-- **A form is refused exactly for the first entry that is wrong.** -/
theorem mapError_ofForm_eq_error_iff {failure : Failure} :
    (ofForm form).mapError Failure.ofForm = .error failure
      ↔ ∃ message, Refused form message ∧ failure = .badRequest message := by
  constructor
  · intro h
    rcases exists_refused_or_ofForm form with ⟨message, hmessage⟩ | ⟨search, hsearch⟩
    · rw [mapError_ofForm_of_refused hmessage] at h
      exact ⟨message, hmessage, (Except.error.inj h).symm⟩
    · rw [hsearch] at h
      cases h
  · rintro ⟨message, hmessage, rfl⟩
    exact mapError_ofForm_of_refused hmessage

/-- **Only the entries count.** -/
theorem ofForm_eq_of_entry_eq (h : ∀ field, form.entry field = form'.entry field) :
    ofForm form = ofForm form' := by
  have hfilled (field : FormField) : form.filled? field = form'.filled? field := by
    rw [SearchForm.filled?_eq, SearchForm.filled?_eq, h]
  have hopen : form.openNow = form'.openNow := by
    rw [Bool.eq_iff_iff, SearchForm.openNow_iff, SearchForm.openNow_iff, h]
  simp only [ofForm, provinceOf, municipalityOf, fuelOf, hfilled, hopen]

/-- **A form is checked field by field, blanks aside.**  It can be answered exactly if the province
is one to five digits, the municipality is that or blank, and the fuel is the key of a fuel or
blank; a field that is absent counts as blank.  Then the search is the one that these entries ask
for.  Otherwise the request is refused, and the complaint is the one about the first of the three
that is wrong, whatever the fields behind it hold.  Blanks around what a field holds, or in place of
a field that is absent, make no difference. -/
theorem ofForm_checks_entries :
    (∀ form, (∃ search, ofForm form = .ok search)
        ↔ IsDigits (form.entry .province)
          ∧ (form.entry .municipality = "" ∨ IsDigits (form.entry .municipality))
          ∧ (form.entry .fuel = "" ∨ ∃ fuel : Fuel, form.entry .fuel = fuel.key))
      ∧ (∀ form search, ofForm form = .ok search → search.IsAskedBy form)
      ∧ (∀ form failure, (ofForm form).mapError Failure.ofForm = .error failure
          ↔ ∃ message, Refused form message ∧ failure = .badRequest message)
      ∧ ∀ form form' : SearchForm,
          (∀ field, SearchForm.Respaced (form.get field) (form'.get field)) →
            ofForm form' = ofForm form :=
  ⟨fun _ => exists_ofForm_iff, fun _ _ => isAskedBy_of_ofForm,
    fun _ _ => mapError_ofForm_eq_error_iff,
    fun _ _ h => ofForm_eq_of_entry_eq fun field => (h field).trimmed_eq.symm⟩

/-- A form that can be answered, and the same form with blanks. -/
theorem ofForm_checks_padded_entries :
    let plain : SearchForm := ⟨some "28", none, some "Precio Gasoleo A", some "ON"⟩
    let padded : SearchForm :=
      ⟨some "\t28\u2003", some " \n", some "Precio Gasoleo A ", some "\u00a0ON"⟩
    (∃ search, ofForm plain = .ok search ∧ search.IsAskedBy plain)
      ∧ ofForm padded = ofForm plain := by
  intro plain padded
  obtain ⟨hexists, hasked, -, hrespaced⟩ := ofForm_checks_entries
  have hprovince : IsDigits (plain.entry .province) := isDigits_iff.mpr (by decide +kernel)
  obtain ⟨search, hsearch⟩ := (hexists plain).mpr
    ⟨hprovince, .inl (by decide +kernel), .inr ⟨.diesel, by decide +kernel⟩⟩
  have blank {cs : List Char} (h : cs.all Text.isBlank = true) : ∀ c ∈ cs, Text.isBlank c = true :=
    List.all_eq_true.mp h
  refine ⟨⟨search, hsearch, hasked _ _ hsearch⟩, hrespaced _ _ fun field => ?_⟩
  cases field with
  | province => exact .padded ⟨['\t'], ['\u2003'], blank rfl, blank rfl, rfl⟩
  | municipality => exact .blank (blank rfl)
  | fuel => exact .padded ⟨[], [' '], blank rfl, blank rfl, rfl⟩
  | openBox => exact .padded ⟨['\u00a0'], [], blank rfl, blank rfl, rfl⟩

end Search

end StationFinder
