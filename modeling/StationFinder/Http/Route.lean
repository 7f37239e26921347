import StationFinder.Http.Message
import StationFinder.Text.Form

/-!
# Http/Route — the addresses of the server

A path is taken apart at its slashes before anything in it is decoded, so an encoded slash stays
where it is and an encoded letter is not the letter.
-/

namespace StationFinder.Http

/-- What the server has addresses for. -/
inductive Route where
  | index
  | health
  | provinces
  /-- The municipalities of a province, whose id stands encoded in the path. -/
  | municipalities (segment : List Char)
  | stations
  /-- A file of those that pages refer to. -/
  | asset
deriving DecidableEq, Repr

namespace Route

/-- The route of a path. -/
def ofPath? (path : List Char) : Option Route :=
  match (path.splitOn '/').map String.ofList with
  | ["", ""] => some index
  | ["", "health"] => some health
  | ["", "stations"] => some stations
  | ["", "api", "provinces"] => some provinces
  | ["", "api", "provinces", segment, "municipalities"] => some (municipalities segment.toList)
  | "" :: "static" :: _ => some asset
  | _ => none

/-- The text that a segment of a path stands for, if its bytes stand for one. -/
def decodeSegment? (segment : List Char) : Option String :=
  (Text.Utf8.decode? (Text.percentDecode (Text.Utf8.encode segment))).map String.ofList

end Route

end StationFinder.Http
