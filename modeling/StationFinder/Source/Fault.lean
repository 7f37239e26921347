import StationFinder.Text.Numeral

/-!
# Source/Fault — why a source has no answer

A source may fail because the price service does, which is the fault of a remote party, or because
the files that stand in for it have nothing to say.
-/

namespace StationFinder

/-- Why a request to the price service came to nothing. -/
inductive ExchangeFault where
  /-- No answer came from this address. -/
  | noAnswer (url : String)
  /-- The request was pointed elsewhere too often, the last time from this address. -/
  | goneAstray (url : String)
  /-- The answer broke off. -/
  | brokeOff
  /-- The address that was set is none, or none to which a request can be sent. -/
  | badAddress (url : Option String)
deriving DecidableEq, Repr

/-- The text of the fault. -/
def ExchangeFault.message : ExchangeFault → String
  | noAnswer url => "error sending request for url (" ++ url ++ ")"
  | goneAstray url => "error following redirect for url (" ++ url ++ ")"
  | brokeOff => "error decoding response body"
  | badAddress none => "builder error"
  | badAddress (some url) => "builder error for url (" ++ url ++ ")"

/-- Why a source has no answer. -/
inductive SourceFault where
  | exchange (fault : ExchangeFault)
  | rateLimited
  /-- The price service answered with a status that tells of a failure. -/
  | status (code : Nat) (body : String)
  /-- The answer is not what it should be; the front of it is kept. -/
  | unreadable (reason : String) (excerpt : String)
  /-- The price service refused the query, in these words. -/
  | rejected (result : String)
  /-- The files that stand in for the price service cannot be read or lack an answer. -/
  | fixtures (reason : String)
deriving DecidableEq, Repr

namespace SourceFault

/-- The text of the fault. -/
def message : SourceFault → String
  | exchange fault => "HTTP error: " ++ fault.message
  | rateLimited => "rate limited by the fuel price API"
  | status code body =>
    "API error " ++ String.ofList (Text.Numeral.write code) ++ ": " ++ body
  | unreadable reason _ => "JSON parse error: " ++ reason
  | rejected result => "query rejected by the API: " ++ result
  | fixtures reason => "mock data error: " ++ reason

/-- Whether the failure is that of the price service. -/
def isRemote : SourceFault → Bool
  | fixtures _ => false
  | _ => true

end SourceFault

end StationFinder
