import StationFinder.Area
import StationFinder.Fuel
import StationFinder.Page.Markup

/-!
# Page/Index — the page with the search form

The form has three lists to choose from and a box to tick.  Below it stand what is wrong with a
search and what it found, if a search was made.
-/

namespace StationFinder

/-- One of the things that a list offers. -/
structure Choice where
  value : String
  label : String
  selected : Bool
deriving DecidableEq, Repr

namespace Choice

/-- A thing that is selected if its value is the one that was chosen before. -/
def make (value label : String) (chosen : Option String) : Choice :=
  ⟨value, label, chosen = some value⟩

/-- An area to choose. -/
def ofArea {kind : AreaKind} (area : Area kind) (chosen : Option String) : Choice :=
  make area.id.text area.name chosen

/-- A fuel to choose. -/
def ofFuel (fuel : Fuel) (chosen : Option String) : Choice := make fuel.key fuel.label chosen

/-- A thing that a list offers. -/
def markup (choice : Choice) : Markup :=
  [.markup "\n        <option value=\"", .text choice.value, .markup "\"",
    .markup (if choice.selected then " selected" else ""), .markup ">", .text choice.label,
    .markup "</option>\n        "]

end Choice

/-- The page with the search form. -/
structure IndexPage where
  provinces : List Choice
  municipalities : List Choice
  fuels : List Choice
  openNow : Bool
  /-- What a search found. -/
  results : Option Markup
  /-- What is wrong with a search. -/
  complaint : Option String
deriving DecidableEq, Repr

namespace IndexPage

/-- What every page begins with. -/
def header : String :=
  "<!DOCTYPE html>\n<html lang=\"en\">\n<head>\n    <meta charset=\"utf-8\">\n" ++
  "    <meta name=\"viewport\" content=\"width=device-width, initial-scale=1\">\n" ++
  "    <title>Fuel Station Finder</title>\n" ++
  "    <link rel=\"stylesheet\" href=\"/static/style.css\">\n</head>\n<body>\n    <header>\n" ++
  "        <h1><a href=\"/\">Fuel Station Finder</a></h1>\n    </header>\n    <main>\n        "

/-- What every page ends with. -/
def footer : String :=
  "\n    </main>\n    <footer>\n        <p>Prices and opening hours from the Ministry for the " ++
  "Ecological Transition fuel price service.</p>\n    </footer>\n    \n" ++
  "<script src=\"/static/app.js\"></script>\n\n</body>\n</html>"

/-- A list to choose from, with nothing chosen in front. -/
def list (id name label : String) (choices : List Choice) : Markup :=
  [.markup ("    <label for=\"" ++ id ++ "\">" ++ label ++ "</label>\n    <select id=\"" ++ id ++
      "\" name=\"" ++ name ++ "\">\n" ++
      "        <option value=\"\">Select an option</option>\n        ")]
    ++ choices.flatMap Choice.markup ++ [.markup "\n    </select>\n\n"]

/-- The form. -/
def form (page : IndexPage) : Markup :=
  [.markup "\n<form id=\"search-form\" action=\"/\" method=\"get\">\n"]
    ++ list "province" "province" "Province" page.provinces
    ++ list "municipality" "municipality" "Municipality" page.municipalities
    ++ list "fuel-type" "fuel" "Fuel type" page.fuels
    ++ [.markup
          ("    <label class=\"checkbox\">\n" ++
            "        <input type=\"checkbox\" id=\"open\" name=\"open\""),
        .markup (if page.openNow then " checked" else ""),
        .markup (">\n        Open now\n    </label>\n\n" ++
          "    <button type=\"submit\" id=\"search\">Search</button>\n</form>\n\n")]

/-- What is wrong with a search; without that the paragraph is there but hidden. -/
def complaintMarkup : Option String → Markup
  | some complaint =>
    [.markup "\n<p id=\"form-error\" class=\"error\">", .text complaint, .markup "</p>\n"]
  | none => [.markup "\n<p id=\"form-error\" class=\"error\" hidden></p>\n"]

/-- What a search found. -/
def resultsMarkup : Option Markup → Markup
  | some results => [.markup "\n"] ++ results ++ [.markup "\n"]
  | none => [.markup "\n"]

/-- The whole page. -/
def markup (page : IndexPage) : Markup :=
  [.markup header] ++ page.form ++ complaintMarkup page.complaint
    ++ [.markup "\n\n<section id=\"gas-stations-list\">\n"] ++ resultsMarkup page.results
    ++ [.markup "\n</section>\n", .markup footer]

end IndexPage

end StationFinder
