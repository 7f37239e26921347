import StationFinder.Proofs.Outcome
import StationFinder.Source.Fixtures
import Mathlib.Data.List.Induction
import Mathlib.Data.Option.Basic

/-!
# Proofs/Source/Files — what a directory of files has to say

Each question has one file that may answer it (`Query.fileName`), and each name that counts belongs
to files for one kind of question (`FixtureName.ofName?_eq_some_iff`).  While the entries of a
directory are read, a draft has what the files so far say and nothing else (`Draft.Reflects`); this
is kept by every entry.  So a directory that can be read has an answer to exactly the questions
whose files it has, and the answer is what the file says (`Fixtures.find?_of_load`).
-/

namespace StationFinder

/-! ## Names of files -/

namespace FixtureName

variable {name front rest : String} {s stem : List Char}

/-- The name of a file that counts. -/
def fileName : FixtureName → String
  | provinces => "provinces.json"
  | municipalities province => "municipalities_" ++ province ++ ".json"
  | provinceStations province => "stations_province_" ++ province ++ ".json"
  | municipalityStations municipality => "stations_municipality_" ++ municipality ++ ".json"

theorem strip?_eq_some_iff :
    strip? front s = some rest ↔ s = front.toList ++ rest.toList := by
  rw [strip?]
  constructor
  · intro h
    split at h
    · next hprefix =>
      cases h
      rw [String.toList_ofList]
      exact (List.prefix_iff_eq_append.mp (List.isPrefixOf_iff_prefix.mp hprefix)).symm
    · cases h
  · rintro rfl
    rw [if_pos (List.isPrefixOf_iff_prefix.mpr (List.prefix_append _ _)), List.drop_left,
      String.ofList_toList]

theorem stem?_eq_some_iff :
    stem? name = some stem ↔ name.toList = stem ++ ".json".toList ∧ stem ≠ [] := by
  have hending : ".json".toList = ['.', 'j', 's', 'o', 'n'] := rfl
  rw [stem?, hending]
  constructor
  · intro h
    split at h
    · next hsuffix =>
      cases h
      obtain ⟨stem, hstem⟩ := List.isSuffixOf_iff_suffix.mp hsuffix.1
      have hne := hsuffix.2
      rw [← hstem] at hne ⊢
      rw [List.length_append, Nat.add_sub_cancel, List.take_left]
      exact ⟨rfl, fun hnil => hne (by rw [hnil, List.nil_append])⟩
    · cases h
  · rintro ⟨hname, hne⟩
    rw [hname, if_pos ⟨List.isSuffixOf_iff_suffix.mpr (List.suffix_append _ _), by simpa using hne⟩,
      List.length_append, Nat.add_sub_cancel, List.take_left]

/-- How a name is read that is a text, an id and the ending. -/
theorem ofName?_append {front id : String} (hfront : front.toList ≠ [])
    (hprovinces : front ++ id ≠ "provinces") : ofName? (front ++ id ++ ".json")
      = ((strip? "municipalities_" (front ++ id).toList).map municipalities
        <|> (strip? "stations_province_" (front ++ id).toList).map provinceStations
        <|> (strip? "stations_municipality_" (front ++ id).toList).map municipalityStations) := by
  have hstem : stem? (front ++ id ++ ".json") = some (front ++ id).toList :=
    stem?_eq_some_iff.mpr ⟨String.toList_append, by simp [hfront]⟩
  rw [ofName?, hstem, Option.bind_some, String.ofList_toList, if_neg hprovinces]

/-- **A name counts as what it is written for**, and all other names are passed over. -/
theorem ofName?_eq_some_iff {fixtureName : FixtureName} :
    ofName? name = some fixtureName ↔ name = fixtureName.fileName := by
  constructor
  · intro h
    obtain ⟨stem, hstem, h⟩ := Option.bind_eq_some_iff.mp h
    have hname : name = String.ofList stem ++ ".json" := by
      rw [← String.toList_inj, (stem?_eq_some_iff.mp hstem).1, String.toList_append,
        @String.toList_ofList stem]
    have hfront {front rest : String} (h : strip? front stem = some rest) :
        String.ofList stem = front ++ rest := by
      rw [strip?_eq_some_iff.mp h, ← String.toList_append, String.ofList_toList]
    rw [hname]
    split at h
    · next hprovinces =>
      cases h
      rw [hprovinces]
      rfl
    · simp only [Option.orElse_eq_some, Option.map_eq_some_iff] at h
      rcases h with ⟨id, hid, rfl⟩ | ⟨-, ⟨id, hid, rfl⟩ | ⟨-, id, hid, rfl⟩⟩
      all_goals exact congrArg (· ++ ".json") (hfront hid)
  · rintro rfl
    have hstrip (front id : String) : strip? front (front ++ id).toList = some id :=
      strip?_eq_some_iff.mpr String.toList_append
    cases fixtureName with
    | provinces =>
      have hstem : stem? "provinces.json" = some "provinces".toList :=
        stem?_eq_some_iff.mpr ⟨by simp, by simp⟩
      show ofName? "provinces.json" = _
      rw [ofName?, hstem, Option.bind_some, if_pos String.ofList_toList]
    | municipalities id =>
      refine (ofName?_append (by simp) (by simp [← String.toList_inj])).trans ?_
      rw [hstrip]
      rfl
    | provinceStations id =>
      refine (ofName?_append (by simp) (by simp [← String.toList_inj])).trans ?_
      rw [hstrip, String.toList_append]
      rfl
    | municipalityStations id =>
      refine (ofName?_append (by simp) (by simp [← String.toList_inj])).trans ?_
      rw [hstrip, String.toList_append]
      rfl

/-- What a file counts as can be told from its name. -/
theorem fileName_injective : Function.Injective fileName := by
  intro fixtureName fixtureName' h
  have hname : ofName? fixtureName.fileName = some fixtureName := ofName?_eq_some_iff.mpr rfl
  exact Option.some.inj (hname.symm.trans (ofName?_eq_some_iff.mpr h))

end FixtureName

/-! ## Files that answer questions -/

/-- The text of a file, if it can be read and holds one. -/
def FileContent.text? : FileContent → Option String
  | data bytes => (Text.Utf8.decode? bytes).map String.ofList
  | unreadable _ => none

namespace Query

variable {query query' : Query}

/-- What the file of a question is by its name. -/
def fixtureName : Query → FixtureName
  | provinces => .provinces
  | municipalities province => .municipalities province.text
  | stations (.province id) => .provinceStations id.text
  | stations (.municipality id) => .municipalityStations id.text

/-- The name of the file that may answer a question. -/
def fileName (query : Query) : String := query.fixtureName.fileName

/-- What is found in a text that answers a question. -/
def contentOf (text : String) : (query : Query) → Except Json.Fault query.Found
  | provinces => (Json.decode Listing.decoder text).map Listing.areas
  | municipalities _ => (Json.decode Listing.decoder text).map Listing.areas
  | stations _ => (Json.decode StationsReply.decoder text).map StationsReply.stations

/-- What is found in a file that answers a question, if it can be read. -/
def inFile? (content : FileContent) (query : Query) : Option query.Found :=
  content.text?.bind fun text => (query.contentOf text).toOption

theorem fixtureName_injective : Function.Injective fixtureName := by
  rintro (_ | province | (id | id)) (_ | province' | (id' | id')) h
  all_goals simp only [fixtureName, reduceCtorEq, FixtureName.municipalities.injEq,
    FixtureName.provinceStations.injEq, FixtureName.municipalityStations.injEq] at h
  · rfl
  all_goals rw [AreaId.eq_of_text_eq h]

/-- **No two questions have the same file.** -/
theorem fileName_injective : Function.Injective fileName :=
  FixtureName.fileName_injective.comp fixtureName_injective

end Query

/-- What a directory entry holds, if it is a file and has the name. -/
def DirectoryEntry.content? (name : String) : String × DirectoryEntry → Option FileContent
  | (name', .file content) => if name' = name then some content else none
  | (_, .directory) => none

namespace Directory

/-- The file with a name among some entries; if the name stands there twice, the last one counts. -/
def lastFile? (name : String) (entries : List (String × DirectoryEntry)) : Option FileContent :=
  entries.reverse.findSome? (DirectoryEntry.content? name)

theorem lastFile?_append_singleton (name : String) (entries : List (String × DirectoryEntry))
    (entry : String × DirectoryEntry) : lastFile? name (entries ++ [entry])
      = (DirectoryEntry.content? name entry).or (lastFile? name entries) := by
  rw [lastFile?, List.reverse_append, List.findSome?_append]
  congr 1
  simp

/-- The text of the file with a name, if the directory has such a file and it holds text. -/
def text? (directory : Directory) (name : String) : Option String :=
  (directory.listing.toOption.bind fun listing => lastFile? name listing.entries).bind
    FileContent.text?

end Directory

/-! ## Reading a directory -/

namespace Fixtures

variable {path : String} {content : FileContent} {draft draft' : Draft} {query query' : Query}
  {entries : List (String × DirectoryEntry)} {entry : String × DirectoryEntry}

/-- What is known in answer to a question. -/
def Draft.find? (draft : Draft) : (query : Query) → Option query.Found
  | .provinces => draft.provinces
  | .municipalities province => draft.municipalities.get? province.text
  | .stations (.province id) => draft.provinceStations.get? id.text
  | .stations (.municipality id) => draft.municipalityStations.get? id.text

/-- Writes down the answer to a question. -/
def Draft.put (draft : Draft) : (query : Query) → query.Found → Draft
  | .provinces, list => { draft with provinces := some list }
  | .municipalities province, list =>
    { draft with municipalities := draft.municipalities.insert province.text list }
  | .stations (.province id), list =>
    { draft with provinceStations := draft.provinceStations.insert id.text list }
  | .stations (.municipality id), list =>
    { draft with municipalityStations := draft.municipalityStations.insert id.text list }

theorem toOption_readText (path : String) (content : FileContent) :
    (readText path content).toOption = content.text? := by
  cases content with
  | data bytes =>
    rw [readText, FileContent.text?]
    cases Text.Utf8.decode? bytes <;> rfl
  | unreadable reason => rfl

/-- What is read of a file is what its text says. -/
theorem readFile_eq_ok {α : Type} {decoder : Json.Decoder α} {a : α}
    (h : readFile decoder path content = .ok a) :
    ∃ text, content.text? = some text ∧ Json.decode decoder text = .ok a := by
  obtain ⟨text, htext, hread⟩ := bind_eq_ok_iff.mp h
  rw [← toOption_readText path]
  exact ⟨text, toOption_eq_some_iff.mpr htext, mapError_eq_ok_iff.mp hread⟩

theorem readId_eq_ok {kind : AreaKind} {text : String} {id : AreaId kind}
    (h : readId path text = .ok id) : text = id.text :=
  AreaId.parse_eq_ok_iff.mp (mapError_eq_ok_iff.mp h)

namespace Draft

theorem find?_put_self (draft : Draft) (found : query.Found) :
    (draft.put query found).find? query = some found := by
  match query with
  | .provinces => rfl
  | .municipalities _ | .stations (.province _) | .stations (.municipality _) =>
    exact Table.get?_insert.trans (if_pos rfl)

/-- Nothing is written down in answer to another question. -/
theorem find?_put_of_ne (h : query' ≠ query) (draft : Draft) (found : query.Found) :
    (draft.put query found).find? query' = draft.find? query' := by
  match query, query' with
  | .provinces, .provinces => exact absurd rfl h
  | .municipalities _, .municipalities _ =>
    refine Table.get?_insert.trans (if_neg fun heq => h ?_)
    rw [AreaId.eq_of_text_eq heq]
  | .stations (.province _), .stations (.province _) =>
    refine Table.get?_insert.trans (if_neg fun heq => h ?_)
    rw [AreaId.eq_of_text_eq heq]
  | .stations (.municipality _), .stations (.municipality _) =>
    refine Table.get?_insert.trans (if_neg fun heq => h ?_)
    rw [AreaId.eq_of_text_eq heq]
  | .provinces, .municipalities _ | .provinces, .stations (.province _)
  | .provinces, .stations (.municipality _)
  | .municipalities _, .provinces | .municipalities _, .stations (.province _)
  | .municipalities _, .stations (.municipality _)
  | .stations (.province _), .provinces | .stations (.province _), .municipalities _
  | .stations (.province _), .stations (.municipality _)
  | .stations (.municipality _), .provinces | .stations (.municipality _), .municipalities _
  | .stations (.municipality _), .stations (.province _) => rfl

/-- **A file that counts answers one question**, and what it says is written down. -/
theorem add_eq_ok {fixtureName : FixtureName}
    (h : draft.add path content fixtureName = .ok draft') :
    ∃ (query : Query) (found : query.Found), fixtureName = query.fixtureName
      ∧ query.inFile? content = some found ∧ draft' = draft.put query found := by
  have hfound {α : Type} {decoder : Json.Decoder α} {a : α} (query : Query)
      (part : α → query.Found)
      (hpart : ∀ text, query.contentOf text = (Json.decode decoder text).map part)
      (hread : readFile decoder path content = .ok a) :
      query.inFile? content = some (part a) := by
    obtain ⟨text, htext, ha⟩ := readFile_eq_ok hread
    rw [Query.inFile?, htext, Option.bind_some, hpart, ha]
    rfl
  cases fixtureName with
  | provinces =>
    obtain ⟨listing, hread, hput⟩ := bind_eq_ok_iff.mp h
    cases hput
    exact ⟨.provinces, _, rfl, hfound .provinces _ (fun _ => rfl) hread, rfl⟩
  | municipalities id =>
    obtain ⟨province, hid, h⟩ := bind_eq_ok_iff.mp h
    obtain ⟨listing, hread, hput⟩ := bind_eq_ok_iff.mp h
    cases hput
    cases readId_eq_ok hid
    exact ⟨.municipalities province, _, rfl,
      hfound (.municipalities province) _ (fun _ => rfl) hread, rfl⟩
  | provinceStations id =>
    obtain ⟨province, hid, h⟩ := bind_eq_ok_iff.mp h
    obtain ⟨reply, hread, hput⟩ := bind_eq_ok_iff.mp h
    cases hput
    cases readId_eq_ok hid
    exact ⟨.stations (.province province), _, rfl,
      hfound (.stations (.province province)) _ (fun _ => rfl) hread, rfl⟩
  | municipalityStations id =>
    obtain ⟨municipality, hid, h⟩ := bind_eq_ok_iff.mp h
    obtain ⟨reply, hread, hput⟩ := bind_eq_ok_iff.mp h
    cases hput
    cases readId_eq_ok hid
    exact ⟨.stations (.municipality municipality), _, rfl,
      hfound (.stations (.municipality municipality)) _ (fun _ => rfl) hread, rfl⟩

/-- A draft has what the files among some entries say, and nothing else. -/
structure Reflects (entries : List (String × DirectoryEntry)) (draft : Draft) : Prop where
  find?_eq : ∀ query : Query,
    draft.find? query = (Directory.lastFile? query.fileName entries).bind (query.inFile? ·)
  /-- Each file that counts can be read. -/
  readable : ∀ (query : Query) (content : FileContent),
    Directory.lastFile? query.fileName entries = some content →
      (query.inFile? content).isSome = true

namespace Reflects

theorem empty : Draft.empty.Reflects [] := by
  refine ⟨fun query => ?_, fun query content h => nomatch h⟩
  match query with
  | .provinces | .municipalities _ | .stations (.province _) | .stations (.municipality _) => rfl

/-- An entry that answers no question is passed over. -/
theorem skip (h : draft.Reflects entries)
    (hentry : ∀ query : Query, DirectoryEntry.content? query.fileName entry = none) :
    draft.Reflects (entries ++ [entry]) := by
  have hlast (query : Query) : Directory.lastFile? query.fileName (entries ++ [entry])
      = Directory.lastFile? query.fileName entries := by
    rw [Directory.lastFile?_append_singleton, hentry, Option.none_or]
  refine ⟨fun query => ?_, fun query content => ?_⟩
  · rw [hlast]
    exact h.find?_eq query
  · rw [hlast]
    exact h.readable query content

/-- A file that answers a question takes the place of an earlier one. -/
theorem put (h : draft.Reflects entries) {found : query.Found}
    (hfound : query.inFile? content = some found) :
    (draft.put query found).Reflects (entries ++ [(query.fileName, .file content)]) := by
  have hself : Directory.lastFile? query.fileName (entries ++ [(query.fileName, .file content)])
      = some content := by
    rw [Directory.lastFile?_append_singleton, DirectoryEntry.content?, if_pos rfl, Option.some_or]
  have hother {query' : Query} (hne : query' ≠ query) :
      Directory.lastFile? query'.fileName (entries ++ [(query.fileName, .file content)])
        = Directory.lastFile? query'.fileName entries := by
    rw [Directory.lastFile?_append_singleton, DirectoryEntry.content?,
      if_neg fun heq => hne (Query.fileName_injective heq.symm), Option.none_or]
  refine ⟨fun query' => ?_, fun query' content' => ?_⟩
  · by_cases hne : query' = query
    · subst hne
      rw [hself, find?_put_self]
      exact hfound.symm
    · rw [hother hne, find?_put_of_ne hne]
      exact h.find?_eq query'
  · by_cases hne : query' = query
    · subst hne
      rw [hself]
      rintro ⟨rfl⟩
      rw [hfound]
      rfl
    · rw [hother hne]
      exact h.readable query' content'

/-- **Every entry is reflected**, whether it counts or not. -/
theorem step (h : draft.Reflects entries) (hstep : draft.step path entry = .ok draft') :
    draft'.Reflects (entries ++ [entry]) := by
  obtain ⟨name, kind⟩ := entry
  rw [Draft.step] at hstep
  split at hstep
  · next content fixtureName hfile hname =>
    obtain ⟨query, found, rfl, hfound, rfl⟩ := add_eq_ok hstep
    obtain rfl : kind = .file content := hfile
    obtain rfl : name = query.fileName := FixtureName.ofName?_eq_some_iff.mp hname
    exact h.put hfound
  · next hskip =>
    cases hstep
    refine h.skip fun query => ?_
    match kind with
    | .directory => rfl
    | .file content =>
      refine if_neg fun heq => hskip content query.fixtureName rfl ?_
      exact FixtureName.ofName?_eq_some_iff.mpr heq

/-- What all entries come to is what the files among them say. -/
theorem foldlM (h : entries.foldlM (Draft.step path) Draft.empty = .ok draft) :
    draft.Reflects entries := by
  induction entries using List.reverseRecOn generalizing draft with
  | nil =>
    cases h
    exact empty
  | append_singleton entries entry ih =>
    rw [List.foldlM_append] at h
    obtain ⟨earlier, hearlier, hentry⟩ := bind_eq_ok_iff.mp h
    obtain ⟨later, hlater, hpure⟩ := bind_eq_ok_iff.mp hentry
    cases hpure
    exact (ih hearlier).step hlater

end Reflects

theorem ofListing_eq_ok_iff {listing : DirectoryListing} : ofListing path listing = .ok draft
    ↔ listing.entries.foldlM (Draft.step path) Draft.empty = .ok draft
      ∧ listing.brokenOff = none := by
  obtain ⟨entries, _ | reason⟩ := listing
  · simp [ofListing]
  · simp [ofListing, bind_eq_ok_iff, throw, throwThe, MonadExceptOf.throw]

end Draft

/-- What the files say in answer to a question. -/
def find? (fixtures : Fixtures) : (query : Query) → Option query.Found
  | .provinces => some fixtures.provinces
  | .municipalities province => fixtures.municipalities.get? province.text
  | .stations scope => fixtures.stations? scope

theorem find?_of_finish {fixtures : Fixtures} (h : draft.finish path = .ok fixtures)
    (query : Query) : fixtures.find? query = draft.find? query := by
  rw [Draft.finish] at h
  split at h
  · next provinces hprovinces =>
    cases h
    match query with
    | .provinces => exact hprovinces.symm
    | .municipalities _ | .stations (.province _) | .stations (.municipality _) => rfl
  · cases h

variable {directory : Directory} {fixtures : Fixtures}

theorem reflects_of_load (h : load directory = .ok fixtures) : ∃ listing, ∃ draft : Draft,
    directory.listing = .ok listing ∧ draft.Reflects listing.entries
      ∧ ∀ query : Query, fixtures.find? query = draft.find? query := by
  obtain ⟨listing, hlisting, h⟩ := bind_eq_ok_iff.mp h
  obtain ⟨draft, hdraft, hfinish⟩ := bind_eq_ok_iff.mp h
  exact ⟨listing, draft, mapError_eq_ok_iff.mp hlisting,
    .foldlM (Draft.ofListing_eq_ok_iff.mp hdraft).1, find?_of_finish hfinish⟩

/-- **A directory that can be read answers a question from the file for it**, and not at all if
there is no such file. -/
theorem find?_of_load (h : load directory = .ok fixtures) (query : Query) :
    fixtures.find? query
      = (directory.text? query.fileName).bind fun text => (query.contentOf text).toOption := by
  obtain ⟨listing, draft, hlisting, hreflects, hfind⟩ := reflects_of_load h
  rw [hfind, hreflects.find?_eq, Directory.text?, hlisting]
  exact (Option.bind_assoc ..).symm

/-- What a file says can be read, if the directory can. -/
theorem exists_contentOf (h : load directory = .ok fixtures) {text : String}
    (htext : directory.text? query.fileName = some text) :
    ∃ found, query.contentOf text = .ok found ∧ fixtures.find? query = some found := by
  have hfind := find?_of_load h query
  obtain ⟨listing, draft, hlisting, hreflects, hdraft⟩ := reflects_of_load h
  obtain ⟨content, hfile, -⟩ := Option.bind_eq_some_iff.mp htext
  rw [hlisting] at hfile
  have hlast : Directory.lastFile? query.fileName listing.entries = some content := hfile
  have hsome : (fixtures.find? query).isSome = true := by
    rw [hdraft, hreflects.find?_eq, hlast]
    exact hreflects.readable query content hlast
  rw [htext, Option.bind_some] at hfind
  rcases hcontent : query.contentOf text with fault | found
  · rw [hfind, hcontent] at hsome
    cases hsome
  · exact ⟨found, rfl, by rw [hfind, hcontent]; rfl⟩

end Fixtures

end StationFinder
