import StationFinder.Area

/-!
# Search/Scope — the area that is searched
-/

namespace StationFinder

/-- The area that is searched. -/
inductive Scope where
  | province (id : ProvinceId)
  | municipality (id : MunicipalityId)
deriving DecidableEq

namespace Scope

/-- The narrower of the chosen areas. -/
def ofChoice (wide : ProvinceId) : Option MunicipalityId → Scope
  | some narrow => municipality narrow
  | none => province wide

/-- The kind of the area. -/
def kind : Scope → AreaKind
  | province _ => .province
  | municipality _ => .municipality

/-- The id of the area. -/
def id : Scope → String
  | province id => id.text
  | municipality id => id.text

/-- The area in words. -/
def text (scope : Scope) : String := scope.kind.word ++ " " ++ scope.id

end Scope

end StationFinder
