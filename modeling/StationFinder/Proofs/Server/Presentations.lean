import StationFinder.Proofs.Search.Answer

/-!
# Proofs/Server/Presentations — the page and the JSON answer say the same

A visitor who accepts pages gets a list of stations as part of a page, all others get JSON.  Here
the list is made once more, from nothing but the JSON (`StationList.ofJson?`), and it is the list
that is shown (`StationList.ofJson?_toJson`).  So the JSON answer holds all that the page shows.
-/

namespace StationFinder

namespace Json

/-- The text of a string. -/
def string? : Json → Option String
  | string s => some s
  | _ => none

/-- The text of a string, and no text for `null`. -/
def nullable? : Json → Option (Option String)
  | string s => some (some s)
  | null => some none
  | _ => none

/-- What a truth value is. -/
def bool? : Json → Option Bool
  | bool b => some b
  | _ => none

/-- The items of an array. -/
def items? : Json → Option (List Json)
  | array vs => some vs
  | _ => none

@[simp] theorem nullable?_ofText? (value : Option String) :
    (ofText? value).nullable? = some value := by
  cases value <;> rfl

end Json

/-- The view of a station that is told of in JSON. -/
def StationView.ofJson? (entry : Json) : Option StationView := do
  let brand ← (entry.member? "brand").bind Json.nullable?
  let address ← (entry.member? "address").bind Json.nullable?
  let municipality ← (entry.member? "municipality").bind Json.nullable?
  let province ← (entry.member? "province").bind Json.nullable?
  let price ← (entry.member? "price").bind Json.nullable?
  let schedule ← (entry.member? "schedule").bind Json.string?
  let isOpen ← (entry.member? "is_open").bind Json.bool?
  return {
    brand := brand.getD ""
    address := String.intercalate ", " ([address, municipality, province].filterMap id)
    price := price.getD "N/A"
    schedule := schedule
    isOpen := isOpen }

/-- The label of the fuel with a key, where there is a key. -/
def Fuel.labelOf? : Option String → Option (Option String)
  | some key => (Fuel.ofKey? key).map fun fuel => some fuel.label
  | none => some none

/-- The list of stations that an answer in JSON tells of. -/
def StationList.ofJson? (answer : Json) : Option StationList := do
  let evaluatedAt ← (answer.member? "evaluated_at").bind Json.string?
  let key ← (answer.member? "fuel").bind Json.nullable?
  let fuelLabel ← Fuel.labelOf? key
  let entries ← (answer.member? "stations").bind Json.items?
  let stations ← entries.mapM StationView.ofJson?
  return ⟨stations, fuelLabel, evaluatedAt⟩

/-- The view of a row is made from what the answer says about it. -/
theorem StationView.ofJson?_toJson (row : Row) : ofJson? row.toJson = some (ofRow row) := by
  simp [ofJson?, Row.toJson, Json.member?, List.lookup_cons, Json.string?, Json.bool?, ofRow,
    noPrice]

theorem StationView.mapM_ofJson? (rows : List Row) :
    rows.mapM (ofJson? ∘ Row.toJson) = some (rows.map ofRow) := by
  induction rows with
  | nil => rfl
  | cons row rows ih =>
    rw [List.mapM_cons, Function.comp_apply, ofJson?_toJson, ih]
    rfl

theorem Fuel.labelOf?_key (fuel : Option Fuel) :
    labelOf? (fuel.map key) = some (fuel.map label) := by
  cases fuel with
  | none => rfl
  | some fuel => rw [Option.map_some, labelOf?, ofKey?_key]; rfl

/-- **The list that is shown is made from the answer in JSON.** -/
theorem StationList.ofJson?_toJson (result : SearchResult) :
    ofJson? result.toJson = some (ofResult result) := by
  simp [ofJson?, SearchResult.toJson, Json.member?, List.lookup_cons, Json.string?, Json.items?,
    Fuel.labelOf?_key, StationView.mapM_ofJson?, ofResult]

end StationFinder
