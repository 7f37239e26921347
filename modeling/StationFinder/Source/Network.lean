import StationFinder.Address.Web
import StationFinder.Config
import StationFinder.Source.Reply

/-!
# Source/Network — how requests reach the price service

A request is handed to a network, which stands for everything that takes part in an exchange: the
library that speaks HTTP, the lines, the price service and whoever the service points to.  If a
request is answered with a redirect, the library asks at the other address by itself, so what comes
back is the reply at the end of all redirects.  Over `unreachable` nothing comes back, and over
`fixed` always the same from an address.
-/

namespace StationFinder

/-- A request to the price service. -/
structure ApiRequest where
  method : String
  /-- What stands in front of the path. -/
  baseUrl : String
  path : String
  accept : String
deriving DecidableEq, Repr

namespace ApiRequest

/-- The request that asks a question. -/
def ofQuery (config : ClientConfig) (query : Query) : ApiRequest where
  method := "GET"
  baseUrl := config.baseUrl
  path := query.path
  accept := "application/json"

/-- The address that is asked. -/
def url (request : ApiRequest) : String := request.baseUrl ++ request.path

/-- The address in full, if requests can be sent there. -/
def destination (request : ApiRequest) : Except ExchangeFault WebAddress :=
  match WebAddress.parse? request.url with
  | none => .error (.badAddress none)
  | some address =>
    let address := address.withoutLogin
    if address.isReachable then .ok address else .error (.badAddress (some address.text))

/-- The fault when nobody is there at the other end. -/
def unanswered (request : ApiRequest) : ExchangeFault :=
  match request.destination with
  | .ok address => .noAnswer address.text
  | .error fault => fault

end ApiRequest

/-- What becomes of the requests that are handed over, with a memory of type `σ`. -/
structure Network (σ : Type) where
  send : ApiRequest → σ → Reply × σ

namespace Network

/-- Nobody is there at the other end. -/
def unreachable : Network Unit where
  send request _ := (.nothing request.unanswered, ())

/-- Every address has its reply, once and for all. -/
def fixed (reply : String → Reply) : Network Unit where
  send request _ := (reply request.url, ())

end Network

end StationFinder
