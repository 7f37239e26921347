import StationFinder.Http.Route
import StationFinder.Inquiry
import StationFinder.Page.Index
import StationFinder.Page.StationList

/-!
# Server — the answers to visitors

Every address has a handler, which may ask the source; `Server.respond` finds the handler.  The
files that pages refer to come from elsewhere (`Server.Assets`).  A failure is blamed on the
visitor, on the price service or on the server itself, and its message is shown.  Only a search
takes a look at the clock, after its form was checked and before the stations are asked for.
-/

namespace StationFinder

/-- Why a request fails. -/
inductive Failure where
  /-- The request cannot be answered. -/
  | badRequest (message : String)
  /-- The price service fails. -/
  | remote (message : String)
  /-- The server itself fails. -/
  | internal (message : String)
deriving DecidableEq, Repr

namespace Failure

/-- The failure that comes of a source's. -/
def ofSource (fault : SourceFault) : Failure :=
  if fault.isRemote then remote fault.message else internal fault.message

/-- The failure that comes of a form that cannot be answered. -/
def ofForm (fault : FormFault) : Failure := badRequest fault.message

/-- What is shown. -/
def message : Failure → String
  | badRequest message | remote message | internal message => message

/-- The status of the response. -/
def status : Failure → Nat
  | badRequest _ => 400
  | remote _ => 502
  | internal _ => 500

/-- A failure as JSON. -/
def toJson (failure : Failure) : Json := .object [("error", .string failure.message)]

/-- The response to a request that fails. -/
def response (failure : Failure) : Http.Response := .json failure.status failure.toJson

end Failure

namespace Server

/-- The response to what a handler comes to. -/
def settle {α : Type} (respond : α → Http.Response) : Except Failure α → Http.Response
  | .ok a => respond a
  | .error failure => failure.response

/-- A list of areas as JSON. -/
def areasJson {kind : AreaKind} (areas : List (Area kind)) : Json := .array (areas.map Area.toJson)

/-! ## Searching -/

/-- Makes a search. -/
def runSearch (search : Search) : Inquiry (Except Failure SearchResult) := do
  let t ← Inquiry.now
  let stations ← Inquiry.ask (.stations search.scope)
  return (stations.map (SearchResult.ofStations search t)).mapError Failure.ofSource

/-- Makes the search that a form asks for. -/
def findStations (form : SearchForm) : Inquiry (Except Failure SearchResult) :=
  match Search.ofForm form with
  | .ok search => runSearch search
  | .error fault => return .error (.ofForm fault)

/-! ## Handlers -/

/-- Answers with the provinces. -/
def provinces : Inquiry Http.Response := do
  let provinces ← Inquiry.ask .provinces
  return settle (fun provinces => .json 200 (areasJson provinces))
    (provinces.mapError Failure.ofSource)

/-- Answers with the municipalities of a province. -/
def municipalities (segment : List Char) : Inquiry Http.Response :=
  match Http.Route.decodeSegment? segment with
  | none => return .plain 400 "Invalid URL: Invalid UTF-8 in `id`"
  | some id =>
    match AreaId.parseTrimmed id with
    | .error _ => return (FormFault.invalidProvince id |> Failure.ofForm).response
    | .ok province => do
      let municipalities ← Inquiry.ask (.municipalities province)
      return settle (fun municipalities => .json 200 (areasJson municipalities))
        (municipalities.mapError Failure.ofSource)

/-- Answers with the stations that a form asks for, as a part of a page where one is accepted. -/
def stations (html : Bool) (form : SearchForm) : Inquiry Http.Response := do
  let result ← findStations form
  return settle (fun result =>
    if html then .page (StationList.ofResult result).markup else .json 200 result.toJson) result

/-- The municipalities that the page offers: those of the chosen province, and none if there is no
such province or they cannot be had. -/
def offeredMunicipalities (chosen : Option String) : Inquiry (List Municipality) :=
  match chosen.map AreaId.parse with
  | some (.ok province) => do
    let municipalities ← Inquiry.ask (.municipalities province)
    return municipalities.toOption.getD []
  | _ => return []

/-- The search that comes with the page, if a province was submitted. -/
def submittedSearch (form : SearchForm) : Inquiry (Option (Except Failure SearchResult)) :=
  if form.province.isSome then some <$> findStations form else return none

/-- The page of a form: what it offers, what is chosen and what came of a search. -/
def indexPage (form : SearchForm) (provinces : List Province) (municipalities : List Municipality)
    (search : Option (Except Failure SearchResult)) : IndexPage where
  provinces := provinces.map (Choice.ofArea · (form.filled? .province))
  municipalities := municipalities.map (Choice.ofArea · (form.filled? .municipality))
  fuels := Fuel.all.map (Choice.ofFuel · (form.filled? .fuel))
  openNow := form.openNow
  results := search.bind fun result => result.toOption.map fun r => (StationList.ofResult r).markup
  complaint := search.bind fun
    | .ok _ => none
    | .error failure => some failure.message

/-- Answers with the page. -/
def index (form : SearchForm) : Inquiry Http.Response := do
  match ← Inquiry.ask .provinces with
  | .error fault => return (Failure.ofSource fault).response
  | .ok provinces =>
    let municipalities ← offeredMunicipalities (form.filled? .province)
    let search ← submittedSearch form
    return .page (indexPage form provinces municipalities search).markup

/-- Reads the form in a query for a handler. -/
def withForm (query : List Char) (handler : SearchForm → Inquiry Http.Response) :
    Inquiry Http.Response :=
  match SearchForm.ofQuery (Text.Utf8.encode query) with
  | .ok form => handler form
  | .error repeated =>
    return .plain 400 ("Failed to deserialize query string: " ++ repeated.message)

/-- What answers requests for the files that pages refer to.  It sees the request, and is not told
of the source. -/
def Assets : Type := Http.Request → Http.Response

/-- There are no files. -/
def Assets.none : Assets := fun request =>
  if request.method = "GET" ∨ request.method = "HEAD" then .notFound else .methodNotAllowed

/-- Answers a request for what an address names. -/
def handle (assets : Assets) (request : Http.Request) : Http.Route → Inquiry Http.Response
  | .index => withForm request.target.query index
  | .health => return .plain 200 "ok"
  | .provinces => provinces
  | .municipalities segment => municipalities segment
  | .stations => withForm request.target.query (stations request.acceptsHtml)
  | .asset => return assets request

/-- Answers a request.  Files are asked for with any method; all else can only be read. -/
def respond (assets : Assets) (request : Http.Request) : Inquiry Http.Response :=
  match Http.Route.ofPath? request.target.path with
  | none => return .notFound
  | some route =>
    if request.method = "GET" ∨ route = .asset then handle assets request route
    else if request.method = "HEAD" then Http.Response.withoutBody <$> handle assets request route
    else return .methodNotAllowed

end Server

end StationFinder
