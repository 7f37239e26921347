import StationFinder.Area.Listing
import StationFinder.Search.Scope
import StationFinder.Source.Fault
import StationFinder.Station

/-!
# Source/Reply — the questions that the price service answers, and its answers

The service is asked by address only.  `Reply.read` sorts its answers: which of them count as
failures, and of what kind, and which are read as the value that was asked for.
-/

namespace StationFinder

/-! ## Questions -/

/-- What the price service can be asked for. -/
inductive Query where
  | provinces
  | municipalities (province : ProvinceId)
  | stations (scope : Scope)
deriving DecidableEq

namespace Query

/-- The path of a question, behind the address of the service. -/
def path : Query → String
  | provinces => "/Listados/Provincias/"
  | municipalities province => "/Listados/MunicipiosPorProvincia/" ++ province.text
  | stations (.province id) => "/EstacionesTerrestres/FiltroProvincia/" ++ id.text
  | stations (.municipality id) => "/EstacionesTerrestres/FiltroMunicipio/" ++ id.text

/-- What is found out by a question. -/
def Found : Query → Type
  | provinces => List Province
  | municipalities _ => List Municipality
  | stations _ => List Station

/-- What a question comes to. -/
abbrev Outcome (query : Query) : Type := Except SourceFault query.Found

end Query

/-! ## Stations in an answer -/

/-- An answer about stations. -/
structure StationsReply where
  stations : List Station
  /-- How the query went, where that is said. -/
  result : Option String
deriving DecidableEq

namespace StationsReply

/-- What the service says when a query went well, up to the case of the letters. -/
def okText : List Char := ['O', 'K']

/-- Whether the query went well. -/
def isOk (reply : StationsReply) : Bool :=
  reply.result.all fun result => Text.sameLetters (Text.trim result.toList) okText

/-- The key of the stations. -/
def stationsKey : String := "ListaEESSPrecio"

/-- The key of the result. -/
def resultKey : String := "ResultadoConsulta"

/-- An answer as JSON. -/
def toJson (reply : StationsReply) : Json :=
  .object [(stationsKey, .array (reply.stations.map Station.toJson)),
    (resultKey, .ofText? reply.result)]

/-- How an answer is made up; a part that is missing counts as empty. -/
def shape : Json.Shape (Option (List Station) × Option (Option String)) StationsReply where
  name := "StationListResponse"
  fields :=
    [.place stationsKey (·.1) (fun known stations => (some stations, known.2))
        (Json.readList Station.decoder) true,
      .place resultKey (·.2) (fun known result => (known.1, some result))
        (fun _ => Json.readString?) true]
  blank := (none, none)
  finish known := .ok ⟨known.1.getD [], known.2.getD none⟩

/-- Reads an answer. -/
def decoder : Json.Decoder StationsReply := shape.decoder

/-- The stations, unless the query was refused. -/
def accepted (reply : StationsReply) : Except SourceFault (List Station) :=
  if reply.isOk then .ok reply.stations else .error (.rejected (reply.result.getD ""))

end StationsReply

/-! ## Answers -/

/-- What comes back from a request. -/
inductive Reply where
  /-- Nothing comes back, for this reason. -/
  | nothing (fault : ExchangeFault)
  /-- A status, and a body unless it broke off. -/
  | answer (status : Nat) (body : Option String)
deriving DecidableEq, Repr

namespace Reply

/-- How much of a body is kept that cannot be read, in characters. -/
def excerptLength : Nat := 500

/-- The front of a body. -/
def excerpt (body : String) : String := String.ofList (body.toList.take excerptLength)

/-- Reads the body of an answer to a request that went well. -/
def readBody {α : Type} (decoder : Json.Decoder α) (body : String) : Except SourceFault α :=
  (Json.decode decoder body).mapError fun fault => .unreadable fault.message (excerpt body)

/-- Reads what came back. -/
def read {α : Type} (reply : Reply) (decoder : Json.Decoder α) : Except SourceFault α :=
  match reply with
  | nothing fault => .error (.exchange fault)
  | answer status body =>
    if status = 429 then .error .rateLimited
    else if ¬ (200 ≤ status ∧ status < 300) then .error (.status status (body.getD ""))
    else match body with
      | none => .error (.exchange .brokeOff)
      | some body => readBody decoder body

end Reply

/-- Reads what came back from a question. -/
def Query.read (reply : Reply) : (query : Query) → query.Outcome
  | provinces => (reply.read Listing.decoder).map Listing.areas
  | municipalities _ => (reply.read Listing.decoder).map Listing.areas
  | stations _ => (reply.read StationsReply.decoder).bind StationsReply.accepted

end StationFinder
