/-!
# Fuel — the fuels that a visitor can choose

A fuel is known by the name of the field that holds its price.
-/

namespace StationFinder

/-- A fuel. -/
inductive Fuel where
  | gasoline95
  | gasoline98
  | diesel
  | premiumDiesel
deriving DecidableEq, Repr

namespace Fuel

/-- The fuels, in the order in which they are offered. -/
def all : List Fuel := [gasoline95, gasoline98, diesel, premiumDiesel]

/-- The name of the field that holds the price. -/
def key : Fuel → String
  | gasoline95 => "Precio Gasolina 95 E5"
  | gasoline98 => "Precio Gasolina 98 E5"
  | diesel => "Precio Gasoleo A"
  | premiumDiesel => "Precio Gasoleo Premium"

/-- The name shown to visitors. -/
def label : Fuel → String
  | gasoline95 => "Gasoline 95 E5"
  | gasoline98 => "Gasoline 98 E5"
  | diesel => "Diesel A"
  | premiumDiesel => "Diesel Premium"

/-- The fuel with a key. -/
def ofKey? (key : String) : Option Fuel := all.find? (·.key = key)

@[simp] theorem ofKey?_key (fuel : Fuel) : ofKey? fuel.key = some fuel := by cases fuel <;> decide

theorem key_of_ofKey? {key : String} {fuel : Fuel} (h : ofKey? key = some fuel) :
    fuel.key = key := by
  have := List.find?_some h
  simpa using this

end Fuel

end StationFinder
