import StationFinder.Fuel
import StationFinder.Search.Criteria
import StationFinder.Search.Form
import StationFinder.Search.Scope

/-!
# Search — a form that can be answered

A form is checked field by field, the province first, then the municipality, then the fuel; the
first field that is wrong is reported.  Blanks around what was filled in do not matter, and a blank
field counts as left out.  A province is needed even where a municipality is given.
-/

namespace StationFinder

/-- What to look for, and where. -/
structure Search where
  scope : Scope
  fuel : Option Fuel
  openNow : Bool
deriving DecidableEq

/-- Why a form cannot be answered. -/
inductive FormFault where
  | noProvince
  | invalidProvince (text : String)
  | invalidMunicipality (text : String)
  | unknownFuel (key : String)
deriving DecidableEq, Repr

/-- The text of the fault. -/
def FormFault.message : FormFault → String
  | noProvince => "Please select a province."
  | invalidProvince text => "Invalid province id: " ++ text
  | invalidMunicipality text => "Invalid municipality id: " ++ text
  | unknownFuel key => "Unknown fuel type: " ++ key

namespace Search

/-- The province that is asked for. -/
def provinceOf (form : SearchForm) : Except FormFault ProvinceId :=
  match form.filled? .province with
  | none => .error .noProvince
  | some text => (AreaId.parse text).mapError fun _ => .invalidProvince text

/-- The municipality that is asked for, if one is. -/
def municipalityOf (form : SearchForm) : Except FormFault (Option MunicipalityId) :=
  match form.filled? .municipality with
  | none => .ok none
  | some text => ((AreaId.parse text).map some).mapError fun _ => .invalidMunicipality text

/-- The fuel that is asked for, if one is. -/
def fuelOf (form : SearchForm) : Except FormFault (Option Fuel) :=
  match form.filled? .fuel with
  | none => .ok none
  | some key =>
    match Fuel.ofKey? key with
    | some fuel => .ok (some fuel)
    | none => .error (.unknownFuel key)

/-- Checks a form. -/
def ofForm (form : SearchForm) : Except FormFault Search := do
  let province ← provinceOf form
  let municipality ← municipalityOf form
  let fuel ← fuelOf form
  return ⟨Scope.ofChoice province municipality, fuel, form.openNow⟩

/-- What is asked of a station. -/
def criteria (search : Search) : Criteria :=
  let criteria := Criteria.any.withOpenNow search.openNow
  match search.fuel with
  | some fuel => criteria.withFuel fuel.key
  | none => criteria

end Search

end StationFinder
