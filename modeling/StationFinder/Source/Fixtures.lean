import StationFinder.Source.Reply
import StationFinder.Text.Utf8

/-!
# Source/Fixtures — files that stand in for the price service

A directory may hold the answers of the service: `provinces.json`, and for the areas that have
them `municipalities_28.json`, `stations_province_28.json` and `stations_municipality_4354.json`.
All other entries are passed over.  One fault in a file whose name counts makes the whole
directory unusable, and so does a list of entries that breaks off.
-/

namespace StationFinder

/-- What reading a file comes to. -/
inductive FileContent where
  | data (bytes : List UInt8)
  /-- The file cannot be read, for this reason. -/
  | unreadable (reason : String)
deriving DecidableEq, Repr

/-- An entry of a directory. -/
inductive DirectoryEntry where
  | file (content : FileContent)
  | directory
deriving DecidableEq, Repr

/-- The list of what is in a directory. -/
structure DirectoryListing where
  /-- The entries by their names, in the order in which they are listed. -/
  entries : List (String × DirectoryEntry)
  /-- Why the list breaks off behind these entries, if it does. -/
  brokenOff : Option String
deriving DecidableEq, Repr

/-- A directory: where it is, and its list, or why there is none. -/
structure Directory where
  path : String
  listing : Except String DirectoryListing

/-- The answers of the files. -/
structure Fixtures where
  provinces : List Province
  /-- The municipalities, under the ids of their provinces. -/
  municipalities : Table (List Municipality)
  /-- The stations of provinces, under their ids. -/
  provinceStations : Table (List Station)
  /-- The stations of municipalities, under their ids. -/
  municipalityStations : Table (List Station)
deriving DecidableEq

/-- Why a directory is unusable. -/
inductive FixtureFault where
  | unreadableDirectory (path reason : String)
  | unreadableEntry (reason : String)
  | badName (path : String) (invalid : InvalidAreaId)
  | unreadableFile (path reason : String)
  | badContent (path : String) (fault : Json.Fault)
  | noProvinces (path : String)

/-- The text of the fault. -/
def FixtureFault.message : FixtureFault → String
  | unreadableDirectory path reason =>
    "failed to read mock data directory " ++ path ++ ": " ++ reason
  | unreadableEntry reason => "failed to read directory entry: " ++ reason
  | badName path invalid => "bad file name " ++ path ++ ": " ++ invalid.message
  | unreadableFile path reason => "failed to read " ++ path ++ ": " ++ reason
  | badContent path fault => "failed to parse " ++ path ++ ": " ++ fault.message
  | noProvinces path => "no provinces.json found in " ++ path

/-- A file that counts, by its name; the id is not checked. -/
inductive FixtureName where
  | provinces
  | municipalities (province : String)
  | provinceStations (province : String)
  | municipalityStations (municipality : String)
deriving DecidableEq, Repr

namespace FixtureName

/-- A text without what stands at its front, if it begins so. -/
def strip? (front : String) (s : List Char) : Option String :=
  if front.toList.isPrefixOf s then some (String.ofList (s.drop front.toList.length)) else none

/-- A file name without the ending `.json`, if it has it and something in front. -/
def stem? (name : String) : Option (List Char) :=
  let s := name.toList
  let ending := ['.', 'j', 's', 'o', 'n']
  if ending.isSuffixOf s ∧ s ≠ ending then some (s.take (s.length - ending.length)) else none

/-- What a file stands for by its name, if it counts. -/
def ofName? (name : String) : Option FixtureName :=
  (stem? name).bind fun stem =>
    if String.ofList stem = "provinces" then some provinces
    else
      (strip? "municipalities_" stem).map municipalities
        <|> (strip? "stations_province_" stem).map provinceStations
        <|> (strip? "stations_municipality_" stem).map municipalityStations

end FixtureName

namespace Fixtures

/-- What is known of a directory while it is being read. -/
structure Draft where
  provinces : Option (List Province)
  municipalities : Table (List Municipality)
  provinceStations : Table (List Station)
  municipalityStations : Table (List Station)

/-- Nothing is known. -/
def Draft.empty : Draft := ⟨none, Table.empty, Table.empty, Table.empty⟩

/-- The path of an entry. -/
def entryPath (path name : String) : String :=
  if path.toList.getLast?.any (· ≠ '/') then path ++ "/" ++ name else path ++ name

/-- The text of a file. -/
def readText (path : String) : FileContent → Except FixtureFault String
  | .unreadable reason => .error (.unreadableFile path reason)
  | .data bytes =>
    match Text.Utf8.decode? bytes with
    | some s => .ok (String.ofList s)
    | none => .error (.unreadableFile path "stream did not contain valid UTF-8")

/-- The value that a file holds. -/
def readFile {α : Type} (decoder : Json.Decoder α) (path : String) (content : FileContent) :
    Except FixtureFault α := do
  let text ← readText path content
  (Json.decode decoder text).mapError (.badContent path)

/-- The id in the name of a file. -/
def readId {kind : AreaKind} (path id : String) : Except FixtureFault (AreaId kind) :=
  (AreaId.parse id).mapError (.badName path)

/-- Takes a file that counts into account. -/
def Draft.add (draft : Draft) (path : String) (content : FileContent) :
    FixtureName → Except FixtureFault Draft
  | .provinces => do
    let listing ← readFile Listing.decoder path content
    return { draft with provinces := some listing.areas }
  | .municipalities id => do
    let province : ProvinceId ← readId path id
    let listing ← readFile Listing.decoder path content
    return { draft with municipalities := draft.municipalities.insert province.text listing.areas }
  | .provinceStations id => do
    let province : ProvinceId ← readId path id
    let reply ← readFile StationsReply.decoder path content
    return { draft with
      provinceStations := draft.provinceStations.insert province.text reply.stations }
  | .municipalityStations id => do
    let municipality : MunicipalityId ← readId path id
    let reply ← readFile StationsReply.decoder path content
    return { draft with
      municipalityStations := draft.municipalityStations.insert municipality.text reply.stations }

/-- Takes an entry into account. -/
def Draft.step (path : String) (draft : Draft) (entry : String × DirectoryEntry) :
    Except FixtureFault Draft :=
  match entry.2, FixtureName.ofName? entry.1 with
  | .file content, some name => draft.add (entryPath path entry.1) content name
  | _, _ => .ok draft

/-- What the entries of a list come to, if it does not break off. -/
def Draft.ofListing (path : String) (listing : DirectoryListing) : Except FixtureFault Draft := do
  let draft ← listing.entries.foldlM (Draft.step path) Draft.empty
  match listing.brokenOff with
  | none => return draft
  | some reason => throw (.unreadableEntry reason)

/-- The answers, if the provinces are among them. -/
def Draft.finish (path : String) (draft : Draft) : Except FixtureFault Fixtures :=
  match draft.provinces with
  | some provinces => .ok
      ⟨provinces, draft.municipalities, draft.provinceStations, draft.municipalityStations⟩
  | none => .error (.noProvinces path)

/-- Reads a directory. -/
def load (directory : Directory) : Except FixtureFault Fixtures := do
  let listing ← directory.listing.mapError (.unreadableDirectory directory.path)
  let draft ← Draft.ofListing directory.path listing
  draft.finish directory.path

/-- The stations of an area. -/
def stations? (fixtures : Fixtures) : Scope → Option (List Station)
  | .province id => fixtures.provinceStations.get? id.text
  | .municipality id => fixtures.municipalityStations.get? id.text

/-- The municipalities of a province, or that there are none. -/
def listMunicipalities (fixtures : Fixtures) (province : ProvinceId) :
    Except SourceFault (List Municipality) :=
  match fixtures.municipalities.get? province.text with
  | some municipalities => .ok municipalities
  | none => .error (.fixtures ("no mock municipalities for province " ++ province.text))

/-- The stations of an area, or that there are none. -/
def listStations (fixtures : Fixtures) (scope : Scope) : Except SourceFault (List Station) :=
  match fixtures.stations? scope with
  | some stations => .ok stations
  | none => .error (.fixtures ("no mock stations for " ++ scope.text))

end Fixtures

end StationFinder
