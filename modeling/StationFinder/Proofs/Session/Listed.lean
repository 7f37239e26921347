import StationFinder.Proofs.Area.Ids
import StationFinder.Proofs.Server.Blame
import StationFinder.Proofs.Server.Presentations
import StationFinder.Proofs.Text.Form

/-!
# Proofs/Session/Listed — what is listed can be searched

The ids that visitors are told of are texts of digits.  They stand in a path and in a query as they
are, and are read there as the same ids, so a request that is made with them poses a question and
is never refused, whatever becomes of it (`AreaId.isAccepted_municipalities`,
`AreaId.isAccepted_stations`).  So of all that the price service sends, what is listed is what can
be searched (`Session.listed_ids_are_usable`).
-/

namespace StationFinder

variable {kind : AreaKind}

/-! ## Ids in addresses -/

/-- The path of some municipalities: whatever stands for their province, without a slash. -/
theorem Http.Route.ofPath?_municipalities {segment : String} (hslash : '/' ∉ segment.toList) :
    ofPath? ("/api/provinces/" ++ segment ++ "/municipalities").toList
      = some (.municipalities segment.toList) := by
  let parts := ["".toList, "api".toList, "provinces".toList, segment.toList,
    "municipalities".toList]
  have hpath : ("/api/provinces/" ++ segment ++ "/municipalities").toList
      = ['/'].intercalate parts := by
    rw [String.toList_append, String.toList_append, List.append_assoc]
    rfl
  have hsplit : (['/'].intercalate parts).splitOn '/' = parts :=
    List.splitOn_intercalate '/' (by simp [parts, hslash]) (by simp [parts])
  rw [ofPath?, hpath, hsplit]
  simp [parts]

namespace AreaId

theorem toNat_of_mem_text {id : AreaId kind} {c : Char} (hc : c ∈ id.text.toList) :
    48 ≤ c.toNat ∧ c.toNat ≤ 57 :=
  ⟨(mem_text hc).1, (mem_text hc).2⟩

/-- The bytes of an id are the digits. -/
theorem mem_encode_text {id : AreaId kind} {b : UInt8} (hb : b ∈ Text.Utf8.encode id.text.toList) :
    0x30 ≤ b ∧ b ≤ 0x39 := by
  have hascii : ∀ c ∈ id.text.toList, c.toNat < 0x80 := fun c hc =>
    (toNat_of_mem_text hc).2.trans_lt (by decide)
  rw [Text.Utf8.encode_of_ascii hascii] at hb
  obtain ⟨c, hc, rfl⟩ := List.mem_map.mp hb
  have hdigit : ∀ n, 48 ≤ n → n ≤ 57 → 0x30 ≤ UInt8.ofNat n ∧ UInt8.ofNat n ≤ 0x39 := by
    intro n hlo hhi
    rw [UInt8.le_iff_toNat_le, UInt8.le_iff_toNat_le, Text.Utf8.toNat_ofNat_of_lt (by omega)]
    exact ⟨hlo, hhi⟩
  exact hdigit _ (toNat_of_mem_text hc).1 (toNat_of_mem_text hc).2

/-- An id in a path is read as itself. -/
theorem decodeSegment?_text (id : AreaId kind) :
    Http.Route.decodeSegment? id.text.toList = some id.text := by
  have hplain : ∀ b ∈ Text.Utf8.encode id.text.toList, b ≠ Text.percentSign := by
    rintro b hb rfl
    exact absurd (mem_encode_text hb).1 (by decide)
  rw [Http.Route.decodeSegment?, Text.percentDecode_of_forall hplain, Text.Utf8.decode?_encode,
    Option.map_some, String.ofList_toList]

/-- An id in a query stands as it is. -/
theorem writePart_text (id : AreaId kind) :
    Text.Form.writePart id.text = Text.Utf8.encode id.text.toList :=
  Text.Form.writePart_of_plain fun b hb => by
    simp [Text.Form.isPlain, (mem_encode_text hb).1, (mem_encode_text hb).2]

/-- The path of a province's municipalities. -/
theorem ofPath?_municipalities (id : ProvinceId) :
    Http.Route.ofPath? ("/api/provinces/" ++ id.text ++ "/municipalities").toList
      = some (.municipalities id.text.toList) :=
  Http.Route.ofPath?_municipalities fun h => absurd (mem_text h) (by decide)

/-- A field that holds an id stands in a query as it is, behind what is written of its name. -/
theorem writePair_text {name front : String}
    (hfront : Text.Form.writePart name ++ [0x3D] = Text.Utf8.encode front.toList)
    (id : AreaId kind) :
    Text.Form.writePair (name, id.text) = Text.Utf8.encode (front ++ id.text).toList := by
  rw [Text.Form.writePair, writePart_text, String.toList_append, Text.Utf8.encode_append, ← hfront,
    List.append_assoc, List.singleton_append]

/-- The form in a query with a province. -/
theorem ofQuery_province (id : ProvinceId) :
    SearchForm.ofQuery (Text.Utf8.encode ("province=" ++ id.text).toList)
      = .ok ⟨some id.text, none, none, none⟩ := by
  have hquery : Text.Form.write [("province", id.text)]
      = Text.Utf8.encode ("province=" ++ id.text).toList :=
    List.intercalate_singleton.trans (writePair_text (by decide) id)
  rw [SearchForm.ofQuery, ← hquery, Text.Form.decode_write]
  rfl

/-- The form in a query with a province and a municipality. -/
theorem ofQuery_municipality (id : ProvinceId) (narrow : MunicipalityId) :
    SearchForm.ofQuery
        (Text.Utf8.encode ("province=" ++ id.text ++ "&municipality=" ++ narrow.text).toList)
      = .ok ⟨some id.text, some narrow.text, none, none⟩ := by
  have hprovince : Text.Form.writePair ("province", id.text)
      = Text.Utf8.encode ("province=" ++ id.text).toList := writePair_text (by decide) id
  have hmunicipality : Text.Form.writePair ("municipality", narrow.text)
      = Text.Utf8.encode ("municipality=" ++ narrow.text).toList :=
    writePair_text (by decide) narrow
  have hand : Text.Utf8.encode "&municipality=".toList
      = [0x26] ++ Text.Utf8.encode "municipality=".toList := by
    decide
  have hquery : Text.Form.write [("province", id.text), ("municipality", narrow.text)]
      = Text.Utf8.encode
        ("province=" ++ id.text ++ "&municipality=" ++ narrow.text).toList := by
    simp only [Text.Form.write, List.map_cons, List.map_nil, List.intercalate_cons_cons,
      List.intercalate_singleton, hprovince, hmunicipality, String.toList_append,
      Text.Utf8.encode_append, hand, List.append_assoc]
  rw [SearchForm.ofQuery, ← hquery, Text.Form.decode_write]
  rfl

end AreaId

/-! ## What is listed -/

/-- The ids in a list of areas. -/
def Json.ids? (answer : Json) : Option (List String) := do
  let areas ← answer.items?
  areas.mapM fun area => (area.member? "id").bind Json.string?

/-- A response lists areas with these ids. -/
def Http.Response.ListsIds (response : Http.Response) (ids : List String) : Prop :=
  ∃ answer, Json.decode Json.readAny response.body = .ok answer ∧ answer.ids? = some ids

/-- A response lists one list of ids at most. -/
theorem Http.Response.ListsIds.unique {response : Http.Response} {ids ids' : List String}
    (h : response.ListsIds ids) (h' : response.ListsIds ids') : ids = ids' := by
  obtain ⟨answer, hdecode, hids⟩ := h
  obtain ⟨answer', hdecode', hids'⟩ := h'
  obtain rfl := Except.ok.inj (hdecode.symm.trans hdecode')
  exact Option.some.inj (hids.symm.trans hids')

namespace Server

theorem ids?_areasJson (areas : List (Area kind)) :
    (areasJson areas).ids? = some (areas.map (·.id.text)) := by
  show (areas.map Area.toJson).mapM (fun area => (area.member? "id").bind Json.string?) = _
  induction areas with
  | nil => rfl
  | cons area areas ih =>
    rw [List.map_cons, List.mapM_cons, ih]
    rfl

theorem decode_areasJson (areas : List (Area kind)) :
    Json.decode Json.readAny (areasJson areas).text = .ok (areasJson areas) := by
  refine Json.decode_text (Json.readAny_array (List.forall_mem_map.mpr fun area _ => ?_))
  refine Json.readAny_object ?_
  simp only [List.forall_mem_cons, AreaId.toJson, Json.readAny_string, List.not_mem_nil,
    false_implies, implies_true, and_self]

/-- The areas that a source tells of are listed. -/
theorem listsIds_settle {outcome : Except SourceFault (List (Area kind))}
    (hok : (settle (fun areas => .json 200 (areasJson areas))
      (outcome.mapError Failure.ofSource)).status = 200) :
    ∃ areas : List (Area kind), (settle (fun areas => .json 200 (areasJson areas))
      (outcome.mapError Failure.ofSource)).ListsIds (areas.map (·.id.text)) := by
  cases outcome with
  | error fault => exact absurd hok (Failure.status_ne_ok _)
  | ok areas => exact ⟨areas, areasJson areas, decode_areasJson areas, ids?_areasJson areas⟩

end Server

/-! ## What is accepted -/

/-- A request is accepted: whatever source there is, and whatever has become of it, there is a
response, and it is none to a bad request. -/
def Http.Request.IsAccepted (request : Http.Request) : Prop :=
  ∀ (σ : Type) (network : Network σ) (state : SourceState σ) (t : Instant)
    (assets : Server.Assets), ∃ response,
    (Session.step network (.visit (some t) assets request) state).1 = .response response
      ∧ response.status ≠ 400

/-- A request that poses a question is accepted. -/
theorem Http.Request.Poses.isAccepted {request : Http.Request} {route : Http.Route} {query : Query}
    (h : request.Poses route query) (hget : request.method = "GET")
    (hroute : Http.Route.ofPath? request.target.path = some route) : request.IsAccepted := by
  intro σ network state t assets
  obtain ⟨response, state', hrun⟩ :=
    Inquiry.exists_run network t (Server.respond assets request) state
  refine ⟨response, congrArg Prod.fst (Session.step_visit hrun), ?_⟩
  rw [Server.respond_of_get hget hroute] at hrun
  obtain ⟨-, htells⟩ := Server.tells_of_poses h hrun
  exact htells.status_ne

namespace AreaId

/-- A form with ids in it asks for a search. -/
theorem asks (id : ProvinceId) (narrow : Option MunicipalityId) :
    SearchForm.Asks ⟨some id.text, narrow.map (·.text), none, none⟩ id narrow none false where
  province := (SearchForm.filled?_of_get rfl).trans (nonBlank_text id)
  municipality := by cases narrow with
    | none => rfl
    | some narrow => exact (SearchForm.filled?_of_get rfl).trans (nonBlank_text narrow)
  fuel := rfl
  openNow := rfl

variable (id : ProvinceId) (accept : List (List UInt8))

/-- The stations of a province, or of a municipality of it, can be asked for. -/
theorem isAccepted_stations (narrow : Option MunicipalityId) {query : List Char}
    (hquery : SearchForm.ofQuery (Text.Utf8.encode query)
      = .ok ⟨some id.text, narrow.map (·.text), none, none⟩) :
    (Http.Request.get "/stations" query accept).IsAccepted := by
  have hroute : Http.Route.ofPath? "/stations".toList = some .stations := by decide
  have hposes : (Http.Request.get "/stations" query accept).Poses .stations
      (.stations (.narrowest id narrow)) := .stations hquery (id.asks narrow)
  exact hposes.isAccepted rfl hroute

/-- The municipalities of a province can be asked for. -/
theorem isAccepted_municipalities (query : List Char) : (Http.Request.get
    ("/api/provinces/" ++ id.text ++ "/municipalities") query accept).IsAccepted :=
  (Http.Request.Poses.municipalities (decodeSegment?_text id) (trimmed_text id)).isAccepted rfl
    (ofPath?_municipalities id)

/-- What is answered about the municipalities of a province. -/
theorem respond_municipalities (assets : Server.Assets) (query : List Char) :
    Server.respond assets (.get ("/api/provinces/" ++ id.text ++ "/municipalities") query accept)
      = (fun outcome => Server.settle (fun areas => .json 200 (Server.areasJson areas))
          (outcome.mapError Failure.ofSource)) <$> Inquiry.ask (.municipalities id) := by
  let request := Http.Request.get ("/api/provinces/" ++ id.text ++ "/municipalities") query accept
  have hrespond : Server.respond assets request
      = Server.handle assets request (.municipalities id.text.toList) :=
    Server.respond_of_get rfl id.ofPath?_municipalities
  have hparse : AreaId.parseTrimmed id.text = .ok id := by
    rw [AreaId.parseTrimmed, trimmed_text, parse_text]
  rw [hrespond, Server.handle, Server.municipalities, decodeSegment?_text]
  simp only [hparse]
  rfl

end AreaId

namespace Session

variable {σ : Type} {network : Network σ} {state : SourceState σ} {t : Instant}
  {assets : Server.Assets} {query : List Char} {accept : List (List UInt8)}
  {response : Http.Response}

/-- The provinces that visitors are told of have ids. -/
theorem listsIds_of_provinces
    (hstep : (step network (.visit (some t) assets (.get "/api/provinces" query accept)) state).1
      = .response response) (hok : response.status = 200) :
    ∃ areas : List Province, response.ListsIds (areas.map (·.id.text)) := by
  have hrun := run_of_step_visit hstep
  rw [Server.respond_of_get rfl (by decide : Http.Route.ofPath? "/api/provinces".toList
    = some .provinces)] at hrun
  obtain rfl := Option.some.inj hrun
  exact Server.listsIds_settle hok

/-- The municipalities that visitors are told of have ids. -/
theorem listsIds_of_municipalities {id : ProvinceId}
    (hstep : (step network (.visit (some t) assets (.get
      ("/api/provinces/" ++ id.text ++ "/municipalities") query accept)) state).1
      = .response response) (hok : response.status = 200) :
    ∃ areas : List Municipality, response.ListsIds (areas.map (·.id.text)) := by
  have hrun := run_of_step_visit hstep
  rw [id.respond_municipalities, Inquiry.run_map] at hrun
  obtain rfl := Option.some.inj hrun
  exact Server.listsIds_settle hok

/-- **What is listed can be searched.**  Of the entries of a listing those are kept, in their order,
whose id is one to five digits, blanks aside; each other entry is told of once, in their order.
When a visitor is told of provinces, each of the ids is accepted, at any time and by any source,
where municipalities of a province and where its stations are asked for.  When a visitor is told of
the municipalities of such a province, each of their ids is accepted together with that of the
province. -/
theorem listed_ids_are_usable :
    (∀ (kind : AreaKind) (listing : Listing kind),
      listing.areas.map (fun area => (area.id.text, area.name))
          = (listing.filter (·.IsUsable)).map (fun entry => (Text.trimmed entry.id, entry.name))
        ∧ listing.dropped = (listing.filter (¬ ·.IsUsable)).map ListingEntry.complaint)
      ∧ ∀ (σ : Type) (network : Network σ) (state : SourceState σ) (t : Instant)
        (assets : Server.Assets) (query : List Char) (accept : List (List UInt8))
        (provinces : Http.Response),
        (step network (.visit (some t) assets (.get "/api/provinces" query accept)) state).1
          = .response provinces → provinces.status = 200 →
        ∃ ids, provinces.ListsIds ids ∧ ∀ id ∈ ids, ∀ (query : List Char)
          (accept : List (List UInt8)),
          let municipalities :=
            Http.Request.get ("/api/provinces/" ++ id ++ "/municipalities") query accept
          municipalities.IsAccepted
            ∧ (Http.Request.get "/stations" ("province=" ++ id).toList accept).IsAccepted
            ∧ ∀ (σ : Type) (network : Network σ) (state : SourceState σ) (t : Instant)
              (assets : Server.Assets) (listed : Http.Response),
              (step network (.visit (some t) assets municipalities) state).1 = .response listed →
              listed.status = 200 →
              ∃ narrowIds, listed.ListsIds narrowIds ∧ ∀ narrow ∈ narrowIds,
                (Http.Request.get "/stations"
                  ("province=" ++ id ++ "&municipality=" ++ narrow).toList accept).IsAccepted := by
  refine ⟨fun kind listing => ⟨listing.areas_eq, listing.dropped_eq⟩, ?_⟩
  intro σ network state t assets query accept provinces hstep hok
  obtain ⟨areas, hlists⟩ := listsIds_of_provinces hstep hok
  refine ⟨_, hlists, fun id hid query accept => ?_⟩
  obtain ⟨area, -, rfl⟩ := List.mem_map.mp hid
  refine ⟨area.id.isAccepted_municipalities accept query,
    area.id.isAccepted_stations accept none area.id.ofQuery_province, ?_⟩
  intro σ network state t assets listed hlisted hok
  obtain ⟨narrowAreas, hlists⟩ := listsIds_of_municipalities hlisted hok
  refine ⟨_, hlists, fun narrow hnarrow => ?_⟩
  obtain ⟨narrowArea, -, rfl⟩ := List.mem_map.mp hnarrow
  exact area.id.isAccepted_stations accept (some narrowArea.id)
    (area.id.ofQuery_municipality narrowArea.id)

/-- Files list a province and a municipality of it. -/
theorem listed_area_of_files_is_usable :
    let t := Instant.ofMinutes 720
    let areas : List Province := [⟨⟨"28", by decide⟩, "MADRID"⟩]
    let narrowAreas : List Municipality := [⟨⟨"4354", by decide⟩, "Madrid"⟩]
    let fixtures : Fixtures := ⟨areas, Table.empty.insert "28" narrowAreas, .empty, .empty⟩
    let state : SourceState Unit := ⟨.fixtures fixtures, 0, (), []⟩
    let municipalities := Http.Request.get "/api/provinces/28/municipalities" [] []
    ∃ provinces listed,
      (step .unreachable (.visit (some t) .none (.get "/api/provinces" [] [])) state).1
          = .response provinces
        ∧ provinces.status = 200 ∧ provinces.ListsIds ["28"] ∧ municipalities.IsAccepted
        ∧ (step .unreachable (.visit (some t) .none municipalities) state).1 = .response listed
        ∧ listed.status = 200 ∧ listed.ListsIds ["4354"]
        ∧ (Http.Request.get "/stations" "province=28&municipality=4354".toList []).IsAccepted := by
  intro t areas narrowAreas fixtures state municipalities
  obtain ⟨-, husable⟩ := listed_ids_are_usable
  have hlists : (Http.Response.json 200 (Server.areasJson areas)).ListsIds ["28"] :=
    ⟨_, Server.decode_areasJson areas, Server.ids?_areasJson areas⟩
  have hnarrow : (Http.Response.json 200 (Server.areasJson narrowAreas)).ListsIds ["4354"] :=
    ⟨_, Server.decode_areasJson narrowAreas, Server.ids?_areasJson narrowAreas⟩
  have hprovinces :
      (step .unreachable (.visit (some t) .none (.get "/api/provinces" [] [])) state).1
        = .response (.json 200 (Server.areasJson areas)) := rfl
  have hrun : (Server.respond .none municipalities).run .unreachable (some t) state
      = (some (.json 200 (Server.areasJson narrowAreas)), state) := by
    let id : ProvinceId := ⟨"28", by decide⟩
    have hrespond : Server.respond .none municipalities = _ :=
      id.respond_municipalities [] .none []
    rw [hrespond]
    rfl
  have hmunicipalities : (step .unreachable (.visit (some t) .none municipalities) state).1
      = .response (.json 200 (Server.areasJson narrowAreas)) :=
    congrArg Prod.fst (step_visit hrun)
  obtain ⟨ids, hids, hall⟩ := husable Unit .unreachable state t .none [] [] _ hprovinces rfl
  obtain rfl := hids.unique hlists
  obtain ⟨haccepted, -, hsearch⟩ := hall "28" List.mem_cons_self [] []
  obtain ⟨narrowIds, hnarrowIds, hall⟩ :=
    hsearch Unit .unreachable state t .none _ hmunicipalities rfl
  obtain rfl := hnarrowIds.unique hnarrow
  exact ⟨_, _, hprovinces, rfl, hlists, haccepted, hmunicipalities, rfl, hnarrow,
    hall "4354" List.mem_cons_self⟩

end Session

end StationFinder
