import StationFinder.Proofs.Area.Ids
import StationFinder.Proofs.Source.StandIn
import Mathlib.Data.List.Nodup

/-!
# Proofs/Source/Loading — which directories can be read, and what they say

Whether an entry stands in the way of reading a directory can be told from the entry alone: it does
if its name counts and the id in the name is none or the file does not hold what it should
(`FixtureName.IsReadable`).  So a directory can be read exactly if its list is whole, no entry
stands in the way and `provinces.json` is there (`Fixtures.exists_load_iff`).  What has been read is
determined by the answers it has to questions (`Draft.ext_find?`), and these come from the files for
the questions, wherever they stand.  So the order in which a directory is listed does not matter.
-/

namespace StationFinder

variable {path : String} {content : FileContent}
  {entries entries' : List (String × DirectoryEntry)} {entry : String × DirectoryEntry}
  {brokenOff : Option String}

/-! ## Files that can be read -/

namespace Fixtures

variable {α : Type} {decoder : Json.Decoder α}

/-- The value that a file holds, if it holds one. -/
def valueIn? (decoder : Json.Decoder α) (content : FileContent) : Option α :=
  content.text?.bind fun text => (Json.decode decoder text).toOption

theorem toOption_readFile (path : String) :
    (readFile decoder path content).toOption = valueIn? decoder content := by
  rw [readFile, valueIn?, ← toOption_readText path]
  cases readText path content with
  | error fault => rfl
  | ok text =>
    show ((Json.decode decoder text).mapError _).toOption = (Json.decode decoder text).toOption
    cases Json.decode decoder text <;> rfl

theorem exists_readFile_iff (path : String) :
    (∃ a, readFile decoder path content = .ok a) ↔ (valueIn? decoder content).isSome = true := by
  rw [← toOption_readFile path, Option.isSome_iff_exists]
  simp only [toOption_eq_some_iff]

theorem exists_readId_iff (path : String) (kind : AreaKind) {id : String} :
    (∃ area : AreaId kind, readId path id = .ok area) ↔ IsDigits id := by
  simp only [readId, mapError_eq_ok_iff]
  exact ⟨fun ⟨_, h⟩ => AreaId.isDigits_of_parse h, fun h => ⟨_, AreaId.parse_of_isDigits h⟩⟩

end Fixtures

/-- A file that counts can be read: the id in its name is one to five digits, and it holds a listing
or an answer about stations. -/
def FixtureName.IsReadable (content : FileContent) : FixtureName → Prop
  | provinces => (Fixtures.valueIn? (@Listing.decoder .province) content).isSome = true
  | municipalities id =>
    IsDigits id ∧ (Fixtures.valueIn? (@Listing.decoder .municipality) content).isSome = true
  | provinceStations id | municipalityStations id =>
    IsDigits id ∧ (Fixtures.valueIn? StationsReply.decoder content).isSome = true

/-- An entry does not stand in the way of reading a directory. -/
def DirectoryEntry.IsHarmless (entry : String × DirectoryEntry) : Prop :=
  ∀ (fixtureName : FixtureName) (content : FileContent),
    entry = (fixtureName.fileName, .file content) → fixtureName.IsReadable content

namespace Fixtures

variable {draft draft' : Draft} {query : Query}

namespace Draft

theorem exists_add_iff {fixtureName : FixtureName} :
    (∃ draft', draft.add path content fixtureName = .ok draft')
      ↔ fixtureName.IsReadable content := by
  cases fixtureName with
  | provinces =>
    rw [FixtureName.IsReadable, ← exists_readFile_iff path]
    simp only [add, exists_bind_eq_ok_iff, exists_pure_eq_ok, and_true]
  | municipalities id =>
    rw [FixtureName.IsReadable, ← exists_readFile_iff path, ← exists_readId_iff path .province]
    simp only [add, exists_bind_eq_ok_iff, exists_pure_eq_ok, and_true, exists_and_right]
  | provinceStations id =>
    rw [FixtureName.IsReadable, ← exists_readFile_iff path, ← exists_readId_iff path .province]
    simp only [add, exists_bind_eq_ok_iff, exists_pure_eq_ok, and_true, exists_and_right]
  | municipalityStations id =>
    rw [FixtureName.IsReadable, ← exists_readFile_iff path, ← exists_readId_iff path .municipality]
    simp only [add, exists_bind_eq_ok_iff, exists_pure_eq_ok, and_true, exists_and_right]

/-- An entry that is no file whose name counts is passed over. -/
theorem step_of_other
    (h : ∀ (fixtureName : FixtureName) (content : FileContent),
      entry ≠ (fixtureName.fileName, .file content)) :
    draft.step path entry = .ok draft := by
  obtain ⟨name, kind⟩ := entry
  rw [step]
  split
  · next content fixtureName hfile hname =>
    obtain rfl : kind = .file content := hfile
    obtain rfl : name = fixtureName.fileName := FixtureName.ofName?_eq_some_iff.mp hname
    exact absurd rfl (h fixtureName content)
  · rfl

theorem exists_step_iff :
    (∃ draft', draft.step path entry = .ok draft') ↔ DirectoryEntry.IsHarmless entry := by
  by_cases h : ∃ (fixtureName : FixtureName) (content : FileContent),
      entry = (fixtureName.fileName, .file content)
  · obtain ⟨fixtureName, content, rfl⟩ := h
    have hstep : draft.step path (fixtureName.fileName, .file content)
        = draft.add (entryPath path fixtureName.fileName) content fixtureName := by
      simp only [step, FixtureName.ofName?_eq_some_iff.mpr rfl]
    rw [hstep, exists_add_iff]
    refine ⟨fun hreadable fixtureName' content' heq => ?_, fun hharmless => hharmless _ _ rfl⟩
    obtain ⟨hname, hcontent⟩ := Prod.mk.inj heq
    obtain rfl := FixtureName.fileName_injective hname
    cases hcontent
    exact hreadable
  · simp only [not_exists] at h
    exact ⟨fun _ fixtureName content heq => absurd heq (h fixtureName content),
      fun _ => ⟨draft, step_of_other h⟩⟩

/-- **Some entries can be read one after the other exactly if none of them stands in the way**,
whatever is known before. -/
theorem exists_foldlM_iff :
    (∃ draft', entries.foldlM (Draft.step path) draft = .ok draft')
      ↔ ∀ entry ∈ entries, DirectoryEntry.IsHarmless entry := by
  induction entries generalizing draft with
  | nil => exact ⟨fun _ => List.forall_mem_nil _, fun _ => ⟨draft, rfl⟩⟩
  | cons entry entries ih =>
    have hentry : (∃ draft', draft.step path entry = .ok draft')
        ↔ DirectoryEntry.IsHarmless entry := exists_step_iff
    rw [List.foldlM_cons, exists_bind_eq_ok_iff, List.forall_mem_cons, ← hentry]
    simp only [ih, exists_and_right]

end Draft

end Fixtures

/-! ## Files among the entries -/

namespace Directory

variable {name : String}

theorem content?_eq_some_iff :
    DirectoryEntry.content? name entry = some content ↔ entry = (name, .file content) := by
  obtain ⟨name', _ | _⟩ := entry <;> simp [DirectoryEntry.content?]

theorem mem_of_lastFile? (h : lastFile? name entries = some content) :
    (name, .file content) ∈ entries := by
  obtain ⟨entry, hmem, hcontent⟩ := List.exists_of_findSome?_eq_some h
  rw [content?_eq_some_iff] at hcontent
  exact hcontent ▸ List.mem_reverse.mp hmem

theorem exists_lastFile?_iff : (∃ content, lastFile? name entries = some content)
    ↔ ∃ content, (name, DirectoryEntry.file content) ∈ entries := by
  refine ⟨fun ⟨content, h⟩ => ⟨content, mem_of_lastFile? h⟩, fun ⟨content, hmem⟩ => ?_⟩
  rw [← Option.isSome_iff_exists, lastFile?, List.findSome?_isSome_iff]
  exact ⟨_, List.mem_reverse.mpr hmem, by simp [content?_eq_some_iff.mpr rfl]⟩

/-- **The file with a name is the one that is there**, if no name stands twice. -/
theorem lastFile?_eq_some_iff (hnames : (entries.map Prod.fst).Nodup) :
    lastFile? name entries = some content ↔ (name, .file content) ∈ entries := by
  refine ⟨mem_of_lastFile?, fun hmem => ?_⟩
  obtain ⟨content', hlast⟩ := exists_lastFile?_iff.mpr ⟨content, hmem⟩
  have heq := List.inj_on_of_nodup_map hnames (mem_of_lastFile? hlast) hmem rfl
  cases heq
  exact hlast

/-- The order of the entries does not matter. -/
theorem lastFile?_perm (hnames : (entries.map Prod.fst).Nodup) (h : entries'.Perm entries)
    (name : String) : lastFile? name entries' = lastFile? name entries := by
  have hnames' : (entries'.map Prod.fst).Nodup := (h.map Prod.fst).nodup_iff.mpr hnames
  ext content
  rw [lastFile?_eq_some_iff hnames', lastFile?_eq_some_iff hnames, h.mem_iff]

end Directory

/-! ## What has been read -/

/-- All that a table has is filed under ids. -/
def Table.IsKeyedByIds {α : Type} (table : Table α) : Prop :=
  ∀ key, ¬ IsDigits key → table.get? key = none

namespace Table.IsKeyedByIds

variable {α : Type} {table table' : Table α}

theorem empty : IsKeyedByIds (Table.empty : Table α) := fun _ _ => get?_empty

theorem insert {kind : AreaKind} (h : table.IsKeyedByIds) (id : AreaId kind) (a : α) :
    (table.insert id.text a).IsKeyedByIds := by
  intro key hkey
  have hne : key ≠ id.text := fun heq => hkey (heq ▸ isDigits_of_isIdText id.isIdText)
  rw [get?_insert, if_neg hne]
  exact h key hkey

/-- Such tables are the same if they have the same under each id. -/
theorem ext (kind : AreaKind) (h : table.IsKeyedByIds) (h' : table'.IsKeyedByIds)
    (hids : ∀ id : AreaId kind, table.get? id.text = table'.get? id.text) : table = table' := by
  refine ext_get? fun key => ?_
  by_cases hkey : IsDigits key
  · exact hids ⟨key, isDigits_iff.mp hkey⟩
  · rw [h key hkey, h' key hkey]

end Table.IsKeyedByIds

namespace Fixtures

variable {draft draft' : Draft} {query : Query}

namespace Draft

/-- All that is known is known of areas. -/
structure IsKeyedByIds (draft : Draft) : Prop where
  municipalities : draft.municipalities.IsKeyedByIds
  provinceStations : draft.provinceStations.IsKeyedByIds
  municipalityStations : draft.municipalityStations.IsKeyedByIds

namespace IsKeyedByIds

theorem empty : Draft.empty.IsKeyedByIds := ⟨.empty, .empty, .empty⟩

theorem put (h : draft.IsKeyedByIds) (query : Query) (found : query.Found) :
    (draft.put query found).IsKeyedByIds := by
  obtain ⟨municipalities, provinceStations, municipalityStations⟩ := h
  match query with
  | .provinces => exact ⟨municipalities, provinceStations, municipalityStations⟩
  | .municipalities id =>
    exact ⟨municipalities.insert id found, provinceStations, municipalityStations⟩
  | .stations (.province id) =>
    exact ⟨municipalities, provinceStations.insert id found, municipalityStations⟩
  | .stations (.municipality id) =>
    exact ⟨municipalities, provinceStations, municipalityStations.insert id found⟩

theorem step (h : draft.IsKeyedByIds) (hstep : draft.step path entry = .ok draft') :
    draft'.IsKeyedByIds := by
  rw [Draft.step] at hstep
  split at hstep
  · obtain ⟨query, found, -, -, rfl⟩ := add_eq_ok hstep
    exact h.put query found
  · cases hstep
    exact h

theorem foldlM (h : draft.IsKeyedByIds)
    (hfold : entries.foldlM (Draft.step path) draft = .ok draft') : draft'.IsKeyedByIds := by
  induction entries generalizing draft with
  | nil =>
    cases hfold
    exact h
  | cons entry entries ih =>
    rw [List.foldlM_cons] at hfold
    obtain ⟨next, hstep, hrest⟩ := bind_eq_ok_iff.mp hfold
    exact ih (h.step hstep) hrest

end IsKeyedByIds

/-- **What is known is determined by the answers to questions.** -/
theorem ext_find? (h : draft.IsKeyedByIds) (h' : draft'.IsKeyedByIds)
    (hfind : ∀ query : Query, draft.find? query = draft'.find? query) : draft = draft' := by
  have hmunicipalities : draft.municipalities = draft'.municipalities :=
    h.municipalities.ext .province h'.municipalities fun id => hfind (.municipalities id)
  have hprovinceStations : draft.provinceStations = draft'.provinceStations :=
    h.provinceStations.ext .province h'.provinceStations fun id => hfind (.stations (.province id))
  have hmunicipalityStations : draft.municipalityStations = draft'.municipalityStations :=
    h.municipalityStations.ext .municipality h'.municipalityStations fun id =>
      hfind (.stations (.municipality id))
  exact (mk.injEq ..).mpr
    ⟨hfind .provinces, hmunicipalities, hprovinceStations, hmunicipalityStations⟩

/-- What the entries come to does not depend on their order. -/
theorem eq_of_perm (hnames : (entries.map Prod.fst).Nodup) (h : entries'.Perm entries)
    (hfold : entries.foldlM (Draft.step path) Draft.empty = .ok draft)
    (hfold' : entries'.foldlM (Draft.step path) Draft.empty = .ok draft') : draft' = draft := by
  refine ext_find? (.foldlM .empty hfold') (.foldlM .empty hfold) fun query => ?_
  rw [(Reflects.foldlM hfold').find?_eq, (Reflects.foldlM hfold).find?_eq,
    Directory.lastFile?_perm hnames h]

end Draft

/-! ## Directories -/

theorem load_eq (path : String) (listing : DirectoryListing) : load ⟨path, .ok listing⟩
    = Draft.ofListing path listing >>= fun draft => draft.finish path := rfl

theorem load_eq_ok_iff {fixtures : Fixtures} :
    load ⟨path, .ok ⟨entries, brokenOff⟩⟩ = .ok fixtures ↔ brokenOff = none
      ∧ ∃ draft : Draft, entries.foldlM (Draft.step path) Draft.empty = .ok draft
        ∧ draft.finish path = .ok fixtures := by
  simp only [load_eq, bind_eq_ok_iff, Draft.ofListing_eq_ok_iff, and_assoc]
  exact ⟨fun ⟨draft, hfold, hwhole, hfinish⟩ => ⟨hwhole, draft, hfold, hfinish⟩,
    fun ⟨hwhole, draft, hfold, hfinish⟩ => ⟨draft, hfold, hwhole, hfinish⟩⟩

theorem exists_finish_iff :
    (∃ fixtures, draft.finish path = .ok fixtures) ↔ draft.provinces.isSome = true := by
  rw [Draft.finish]
  cases draft.provinces <;> simp

/-- **A directory can be read exactly if its list does not break off, the provinces are there and no
entry stands in the way.** -/
theorem exists_load_iff : (∃ fixtures, load ⟨path, .ok ⟨entries, brokenOff⟩⟩ = .ok fixtures)
    ↔ brokenOff = none ∧ (∃ content, ("provinces.json", DirectoryEntry.file content) ∈ entries)
      ∧ ∀ entry ∈ entries, DirectoryEntry.IsHarmless entry := by
  simp only [load_eq_ok_iff, exists_and_left]
  refine and_congr_right fun _ => ?_
  rw [← @Draft.exists_foldlM_iff path entries .empty, exists_comm, ← exists_and_left]
  refine exists_congr fun draft => ?_
  rw [exists_and_left, and_comm, and_congr_left_iff]
  intro hfold
  have hreflects := Draft.Reflects.foldlM hfold
  rw [exists_finish_iff, ← Directory.exists_lastFile?_iff]
  have hprovinces : draft.provinces
      = (Directory.lastFile? "provinces.json" entries).bind (Query.provinces.inFile? ·) :=
    hreflects.find?_eq .provinces
  rw [hprovinces]
  constructor
  · intro hsome
    obtain ⟨found, hfound⟩ := Option.isSome_iff_exists.mp hsome
    obtain ⟨content, hlast, -⟩ := Option.bind_eq_some_iff.mp hfound
    exact ⟨content, hlast⟩
  · rintro ⟨content, hlast⟩
    rw [hlast]
    exact hreflects.readable .provinces content hlast

theorem forall_isHarmless_iff : (∀ entry ∈ entries, DirectoryEntry.IsHarmless entry)
    ↔ ∀ (fixtureName : FixtureName) (content : FileContent),
      (fixtureName.fileName, DirectoryEntry.file content) ∈ entries →
        fixtureName.IsReadable content :=
  ⟨fun h fixtureName content hmem => h _ hmem fixtureName content rfl,
    fun h _ hmem fixtureName content heq => h fixtureName content (heq ▸ hmem)⟩

/-- **The order in which a directory is listed does not matter.** -/
theorem load_eq_ok_of_perm {fixtures : Fixtures} (hnames : (entries.map Prod.fst).Nodup)
    (h : entries'.Perm entries) (hload : load ⟨path, .ok ⟨entries, brokenOff⟩⟩ = .ok fixtures) :
    load ⟨path, .ok ⟨entries', brokenOff⟩⟩ = .ok fixtures := by
  obtain ⟨hwhole, draft, hfold, hfinish⟩ := load_eq_ok_iff.mp hload
  have hharmless : ∀ entry ∈ entries', DirectoryEntry.IsHarmless entry := fun entry hmem =>
    Draft.exists_foldlM_iff.mp ⟨draft, hfold⟩ entry (h.mem_iff.mp hmem)
  obtain ⟨draft', hfold'⟩ := Draft.exists_foldlM_iff.mpr hharmless
  obtain rfl : draft' = draft := Draft.eq_of_perm hnames h hfold hfold'
  exact load_eq_ok_iff.mpr ⟨hwhole, draft', hfold', hfinish⟩

/-- **An entry that does not count might as well not be there.** -/
theorem load_append_cons_of_other {front back : List (String × DirectoryEntry)}
    (h : ∀ (fixtureName : FixtureName) (content : FileContent),
      entry ≠ (fixtureName.fileName, .file content)) :
    load ⟨path, .ok ⟨front ++ entry :: back, brokenOff⟩⟩
      = load ⟨path, .ok ⟨front ++ back, brokenOff⟩⟩ := by
  have hstep (draft : Draft) :
      (entry :: back).foldlM (Draft.step path) draft = back.foldlM (Draft.step path) draft := by
    rw [List.foldlM_cons, Draft.step_of_other h]
    rfl
  simp only [load_eq, Draft.ofListing, List.foldlM_append, hstep]

/-- **A directory answers a question if it has the file for it**, and its answer is what the file
says. -/
theorem answer_of_mem {fixtures : Fixtures} (hnames : (entries.map Prod.fst).Nodup)
    (hload : load ⟨path, .ok ⟨entries, brokenOff⟩⟩ = .ok fixtures)
    (hmem : (query.fileName, .file content) ∈ entries) :
    ∃ found, query.inFile? content = some found ∧ fixtures.answer query = .ok found := by
  obtain ⟨_, draft, ⟨⟩, hreflects, hfind⟩ := reflects_of_load hload
  have hlast := (Directory.lastFile?_eq_some_iff hnames).mpr hmem
  obtain ⟨found, hfound⟩ := Option.isSome_iff_exists.mp (hreflects.readable query content hlast)
  refine ⟨found, hfound, answer_eq_ok_iff.mpr ?_⟩
  rw [hfind, hreflects.find?_eq, hlast]
  exact hfound

theorem exists_answer_iff {fixtures : Fixtures} (hnames : (entries.map Prod.fst).Nodup)
    (hload : load ⟨path, .ok ⟨entries, brokenOff⟩⟩ = .ok fixtures) :
    (∃ found, fixtures.answer query = .ok found)
      ↔ ∃ content, (query.fileName, DirectoryEntry.file content) ∈ entries := by
  constructor
  · rintro ⟨found, hanswer⟩
    obtain ⟨_, draft, ⟨⟩, hreflects, hfind⟩ := reflects_of_load hload
    have hfound := answer_eq_ok_iff.mp hanswer
    rw [hfind, hreflects.find?_eq] at hfound
    obtain ⟨content, hlast, -⟩ := Option.bind_eq_some_iff.mp hfound
    exact ⟨content, Directory.mem_of_lastFile? hlast⟩
  · rintro ⟨content, hmem⟩
    obtain ⟨found, -, hanswer⟩ := answer_of_mem hnames hload hmem
    exact ⟨found, hanswer⟩

/-- **What is read of a directory is settled by what is in it.**  No name stands twice in the
directory.  Then each order of its entries comes to the same answers, or all of them to none.  It
can be read exactly if the list of entries does not break off, `provinces.json` is a file and each
file whose name counts can be read: the id in the name is one, and the file holds what it should.
All other entries might as well not be there.  Once the directory has been read, a question has an
answer exactly if the file for it is there, and the answer is what this file says. -/
theorem load_in_any_order (path : String) (entries : List (String × DirectoryEntry))
    (brokenOff : Option String) (hnames : (entries.map Prod.fst).Nodup) :
    (∀ entries', entries'.Perm entries → ∀ fixtures,
      load ⟨path, .ok ⟨entries', brokenOff⟩⟩ = .ok fixtures
        ↔ load ⟨path, .ok ⟨entries, brokenOff⟩⟩ = .ok fixtures)
    ∧ ((∃ fixtures, load ⟨path, .ok ⟨entries, brokenOff⟩⟩ = .ok fixtures)
      ↔ brokenOff = none ∧ (∃ content, ("provinces.json", DirectoryEntry.file content) ∈ entries)
        ∧ ∀ (fixtureName : FixtureName) (content : FileContent),
          (fixtureName.fileName, DirectoryEntry.file content) ∈ entries →
            fixtureName.IsReadable content)
    ∧ (∀ front entry back, entries = front ++ entry :: back →
      (∀ (fixtureName : FixtureName) (content : FileContent),
        entry ≠ (fixtureName.fileName, .file content)) →
      load ⟨path, .ok ⟨entries, brokenOff⟩⟩ = load ⟨path, .ok ⟨front ++ back, brokenOff⟩⟩)
    ∧ ∀ fixtures, load ⟨path, .ok ⟨entries, brokenOff⟩⟩ = .ok fixtures → ∀ query : Query,
      ((∃ found, fixtures.answer query = .ok found)
        ↔ ∃ content, (query.fileName, DirectoryEntry.file content) ∈ entries)
      ∧ ∀ content, (query.fileName, DirectoryEntry.file content) ∈ entries →
        ∃ found, query.inFile? content = some found ∧ fixtures.answer query = .ok found := by
  refine ⟨fun entries' hperm fixtures => ?_, ?_, ?_, fun fixtures hload query => ?_⟩
  · have hnames' : (entries'.map Prod.fst).Nodup := (hperm.map Prod.fst).nodup_iff.mpr hnames
    exact ⟨load_eq_ok_of_perm hnames' hperm.symm, load_eq_ok_of_perm hnames hperm⟩
  · rw [exists_load_iff, forall_isHarmless_iff]
  · rintro front entry back rfl hother
    exact load_append_cons_of_other hother
  · exact ⟨exists_answer_iff hnames hload, fun content => answer_of_mem hnames hload⟩

/-- A directory with files for two questions, listed in two orders; among its entries is a directory
by a name that would count, and a file that cannot be read and does not count. -/
theorem load_in_either_order :
    let provinces :=
      ("provinces.json", DirectoryEntry.file (.data (Text.Utf8.encode "[]".toList)))
    let municipalities :=
      ("municipalities_28.json", DirectoryEntry.file (.data (Text.Utf8.encode "[]".toList)))
    let other := ("stations_province_x.json", DirectoryEntry.directory)
    let locked := ("provinces.txt", DirectoryEntry.file (.unreadable "Permission denied"))
    let asked : Query := .municipalities ⟨"28", by decide⟩
    let unasked : Query := .municipalities ⟨"8", by decide⟩
    ∃ fixtures,
      load ⟨"files", .ok ⟨[provinces, other, locked, municipalities], none⟩⟩ = .ok fixtures
        ∧ load ⟨"files", .ok ⟨[municipalities, provinces, other, locked], none⟩⟩ = .ok fixtures
        ∧ (∃ found, fixtures.answer asked = .ok found)
        ∧ ¬ ∃ found, fixtures.answer unasked = .ok found := by
  intro provinces municipalities other locked asked unasked
  obtain ⟨horder, -, -, hanswer⟩ :=
    load_in_any_order "files" [provinces, other, locked, municipalities] none (by decide)
  have hload : (load ⟨"files", .ok ⟨[provinces, other, locked, municipalities], none⟩⟩
      ).toOption.isSome = true := by
    decide +kernel
  have hperm : [municipalities, provinces, other, locked].Perm
      [provinces, other, locked, municipalities] := by
    decide
  obtain ⟨fixtures, hfixtures⟩ := exists_eq_ok hload
  refine ⟨fixtures, hfixtures, (horder _ hperm fixtures).mpr hfixtures,
    (hanswer fixtures hfixtures asked).1.mpr ⟨_, .tail _ (.tail _ (.tail _ (.head _)))⟩,
    fun hfound => ?_⟩
  obtain ⟨content, hmem⟩ := (hanswer fixtures hfixtures unasked).1.mp hfound
  have hname : "municipalities_8.json"
      ∈ [provinces, other, locked, municipalities].map Prod.fst :=
    List.mem_map_of_mem hmem
  exact absurd hname (by decide)

end Fixtures

end StationFinder
