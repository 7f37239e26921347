import StationFinder.Json.Value
import StationFinder.Page.Markup
import StationFinder.Text.Cut
import StationFinder.Text.Utf8

/-!
# Http/Message — requests from visitors and responses to them
-/

namespace StationFinder.Http

/-- What an address names on this server. -/
structure Target where
  path : List Char
  /-- What stands behind the first question mark. -/
  query : List Char
deriving DecidableEq, Repr

/-- Takes an address apart; a fragment is left out. -/
def Target.parse (uri : String) : Target :=
  let s := uri.toList.takeWhile (· ≠ '#')
  ⟨s.takeWhile (· ≠ '?'), (s.dropWhile (· ≠ '?')).drop 1⟩

/-- A request. -/
structure Request where
  method : String
  target : Target
  /-- The headers that say what the visitor accepts, in their order. -/
  accept : List (List UInt8)
deriving DecidableEq, Repr

/-- The kind of page that is asked for by a header that names it. -/
def htmlType : List Char := ['t', 'e', 'x', 't', '/', 'h', 't', 'm', 'l']

/-- Whether a byte is a visible ASCII character, a space or a tab. -/
def isPlainByte (b : UInt8) : Bool := b = 9 || 32 ≤ b && b < 127

/-- The text of a header, if it is plain. -/
def plainText? (header : List UInt8) : Option (List Char) :=
  if header.all isPlainByte then some (header.map fun b => Char.ofNat b.toNat) else none

/-- Whether a page is accepted as an answer.  Only the first header counts, and only if it is
plain. -/
def Request.acceptsHtml (request : Request) : Bool :=
  (request.accept.head?.bind plainText?).any (Text.contains htmlType)

/-- A response. -/
structure Response where
  status : Nat
  contentType : Option String
  /-- The methods that the address has, when another one was used. -/
  allow : Option String
  body : String
deriving DecidableEq, Repr

namespace Response

/-- A response without a body. -/
def bare (status : Nat) : Response := ⟨status, none, none, ""⟩

/-- Nothing has this address. -/
def notFound : Response := bare 404

/-- The address cannot be used like this. -/
def methodNotAllowed : Response := { bare 405 with allow := some "GET,HEAD" }

/-- A response in plain text. -/
def plain (status : Nat) (body : String) : Response :=
  ⟨status, some "text/plain; charset=utf-8", none, body⟩

/-- A page, or a part of one. -/
def page (markup : Markup) : Response :=
  ⟨200, some "text/html; charset=utf-8", none, markup.html⟩

/-- A response in JSON. -/
def json (status : Nat) (body : Json) : Response :=
  ⟨status, some "application/json", none, body.text⟩

/-- The response to a visitor who asks for the headers only. -/
def withoutBody (response : Response) : Response := { response with body := "" }

end Response

end StationFinder.Http
