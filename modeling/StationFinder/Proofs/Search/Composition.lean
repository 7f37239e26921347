import StationFinder.Search.Criteria
import Mathlib.Data.List.Basic
import Mathlib.Data.List.Induction

/-!
# Proofs/Search/Composition — criteria that are put together, and one after the other

Criteria are put together in steps, and of the steps of each kind the last one counts
(`Criteria.ofSteps_eq`).  What criteria keep of a list does not depend on how they came about: they
look at each station by itself.  So the order in which two of them are used does not matter, and
they come to the same as one, unless they name two fuels (`Criteria.keep_keep_eq_keep_both`).
-/

namespace StationFinder

namespace Criteria

/-! ## Criteria in steps -/

/-- A step by which criteria are put together. -/
inductive Step where
  | fuel (key : String)
  | openNow (openNow : Bool)
deriving DecidableEq, Repr

/-- The criteria after a step. -/
def take (criteria : Criteria) : Step → Criteria
  | .fuel key => criteria.withFuel key
  | .openNow openNow => criteria.withOpenNow openNow

/-- The criteria that some steps lead to; at first nothing is asked. -/
def ofSteps (steps : List Step) : Criteria := steps.foldl take any

namespace Step

/-- The key that a step names. -/
def fuel? : Step → Option String
  | fuel key => some key
  | openNow _ => none

/-- The choice about open stations that a step makes. -/
def openNow? : Step → Option Bool
  | fuel _ => none
  | openNow choice => some choice

end Step

/-- The key that the last of the steps about fuels names, unless it is empty. -/
def lastFuel (steps : List Step) : Option String :=
  (steps.filterMap Step.fuel?).getLast?.filter (· ≠ "")

/-- The choice that the last of the steps about open stations makes. -/
def lastOpenNow (steps : List Step) : Bool := (steps.filterMap Step.openNow?).getLast?.getD false

theorem ofSteps_concat (steps : List Step) (step : Step) :
    ofSteps (steps ++ [step]) = (ofSteps steps).take step :=
  List.foldl_concat _ _ _ _

/-- **Of the steps of each kind the last one counts.** -/
theorem ofSteps_eq (steps : List Step) : ofSteps steps = ⟨lastFuel steps, lastOpenNow steps⟩ := by
  induction steps using List.reverseRecOn with
  | nil => rfl
  | append_singleton steps step ih =>
    rw [ofSteps_concat, ih]
    cases step with
    | fuel key =>
      have hfuel : (if key = "" then none else some key) = (some key).filter (· ≠ "") := by
        rw [Option.filter_some]
        by_cases hkey : key = "" <;> simp [hkey]
      simp [take, withFuel, lastFuel, lastOpenNow, Step.fuel?, Step.openNow?, hfuel]
    | openNow choice =>
      simp [take, withOpenNow, lastFuel, lastOpenNow, Step.fuel?, Step.openNow?]

/-! ## What criteria keep -/

variable {f g : Criteria} {t : Instant} {stations : List Station}

/-- **Which stations criteria admit**: those with a price for the fuel that is named, if one is, and
with opening hours that cover the instant, if the station has to be open. -/
theorem admits_eq_true_iff {station : Station} : f.admits t station = true
    ↔ (∀ key ∈ f.fuel, ∃ price, station.field? key = some price ∧ price ≠ "")
      ∧ (f.openNow = true → (Schedule.parse ((station.field? "Horario").getD "")).isOpen t) := by
  have hopen : (!f.openNow || station.isOpen t) = true ↔ (f.openNow = true →
      (Schedule.parse ((station.field? "Horario").getD "")).isOpen t) := by
    show (!f.openNow || (Schedule.parse ((station.field? "Horario").getD "")).isOpen t) = true ↔ _
    cases f.openNow <;> simp
  rw [admits, Bool.and_eq_true, hopen]
  refine and_congr_left' ?_
  cases f.fuel with
  | none => simp
  | some key => simp [Station.sells_iff]

/-- A station stands in what is kept as often as before, or not at all. -/
theorem count_keep (station : Station) : (f.keep t stations).count station
    = if f.admits t station = true then stations.count station else 0 := by
  split
  · next hadmits => exact List.count_filter hadmits
  · next hadmits =>
    exact List.count_eq_zero.mpr fun hmem => hadmits (List.mem_filter.mp hmem).2

/-- What criteria keep of what others kept. -/
theorem keep_keep : g.keep t (f.keep t stations)
    = stations.filter fun station => f.admits t station && g.admits t station := by
  simp only [keep, List.filter_filter, Bool.and_comm]

/-- Criteria that ask for more keep a part of what the others keep. -/
theorem keep_sublist_keep (h : ∀ station, g.admits t station = true → f.admits t station = true) :
    (g.keep t stations).Sublist (f.keep t stations) :=
  List.monotone_filter_right stations h

/-- What two criteria ask together, if one fuel is enough for both. -/
def both (f g : Criteria) : Criteria := ⟨f.fuel.or g.fuel, f.openNow || g.openNow⟩

theorem admits_both (h : f.fuel = g.fuel ∨ f.fuel = none ∨ g.fuel = none) (station : Station) :
    (both f g).admits t station = (f.admits t station && g.admits t station) := by
  have hopen : (!(f.openNow || g.openNow) || station.isOpen t)
      = ((!f.openNow || station.isOpen t) && (!g.openNow || station.isOpen t)) := by
    cases f.openNow <;> cases g.openNow <;> simp
  have hfuel : (f.fuel.or g.fuel).all station.sells
      = (f.fuel.all station.sells && g.fuel.all station.sells) := by
    rcases h with hsame | hnone | hnone
    · rw [hsame, Option.or_self, Bool.and_self]
    · simp [hnone]
    · simp [hnone]
  simp only [admits, both, hopen, hfuel, Bool.and_assoc, Bool.and_left_comm]

/-- **Criteria one after the other are one**, unless they name two fuels. -/
theorem keep_keep_eq_keep_both (h : f.fuel = g.fuel ∨ f.fuel = none ∨ g.fuel = none) :
    g.keep t (f.keep t stations) = (both f g).keep t stations := by
  rw [keep_keep, keep]
  exact List.filter_congr fun station _ => (admits_both h station).symm

/-- Where no fuel was named, naming one asks for more. -/
theorem admits_of_withFuel {key : String} (hfuel : f.fuel = none) (station : Station)
    (h : (f.withFuel key).admits t station = true) : f.admits t station = true := by
  rw [admits_eq_true_iff] at h ⊢
  refine ⟨fun key hkey => ?_, h.2⟩
  rw [hfuel] at hkey
  cases hkey

/-- Asking for open stations asks for more. -/
theorem admits_of_withOpenNow (station : Station)
    (h : (f.withOpenNow true).admits t station = true) : f.admits t station = true := by
  rw [admits_eq_true_iff] at h ⊢
  exact ⟨h.1, fun _ => h.2 rfl⟩

/-- **Criteria compose.**  Let two criteria be put together in any steps; of each kind of step the
last one counts, and an empty key names no fuel.  Of any list they keep the stations that they
admit, in their order and as often as they stand there, and no others.  It does not matter which of
the two comes first, and they come to the same as what both ask together, if they name one fuel or
at least one of them names none.  A step that asks for more leaves a part of what was kept.  Two
lists one behind the other are looked at one by one, and criteria that come once more take nothing
away. -/
theorem keeps_compose (fs gs : List Step) (t : Instant) (stations : List Station) :
    let f := ofSteps fs
    let g := ofSteps gs
    f = ⟨lastFuel fs, lastOpenNow fs⟩
      ∧ (∀ station, f.admits t station = true
        ↔ (∀ key ∈ lastFuel fs, ∃ price, station.field? key = some price ∧ price ≠ "")
          ∧ (lastOpenNow fs = true →
            (Schedule.parse ((station.field? "Horario").getD "")).isOpen t = true))
      ∧ (f.keep t stations).Sublist stations
      ∧ (∀ station, (f.keep t stations).count station
        = if f.admits t station = true then stations.count station else 0)
      ∧ g.keep t (f.keep t stations) = f.keep t (g.keep t stations)
      ∧ (lastFuel fs = lastFuel gs ∨ lastFuel fs = none ∨ lastFuel gs = none →
        g.keep t (f.keep t stations)
          = keep ⟨(lastFuel fs).or (lastFuel gs), lastOpenNow fs || lastOpenNow gs⟩ t stations)
      ∧ (lastFuel fs = none → ∀ key,
        ((ofSteps (fs ++ [.fuel key])).keep t stations).Sublist (f.keep t stations))
      ∧ ((ofSteps (fs ++ [.openNow true])).keep t stations).Sublist (f.keep t stations)
      ∧ (∀ more, f.keep t (stations ++ more) = f.keep t stations ++ f.keep t more)
      ∧ f.keep t (f.keep t stations) = f.keep t stations := by
  intro f g
  have hf : f = ⟨lastFuel fs, lastOpenNow fs⟩ := ofSteps_eq fs
  have hg : g = ⟨lastFuel gs, lastOpenNow gs⟩ := ofSteps_eq gs
  refine ⟨hf, fun station => ?admits, List.filter_sublist, count_keep, ?order, fun hfuel => ?one,
    fun hnone key => ?fuel, ?openNow, fun more => List.filter_append stations more, ?again⟩
  case admits =>
    rw [hf]
    exact admits_eq_true_iff
  case order =>
    rw [keep_keep, keep_keep]
    exact List.filter_congr fun station _ => Bool.and_comm _ _
  case one =>
    rw [hf, hg]
    exact keep_keep_eq_keep_both hfuel
  case fuel =>
    rw [ofSteps_concat]
    exact keep_sublist_keep (admits_of_withFuel ((congrArg Criteria.fuel hf).trans hnone))
  case openNow =>
    rw [ofSteps_concat]
    exact keep_sublist_keep admits_of_withOpenNow
  case again =>
    rw [keep_keep, keep]
    exact List.filter_congr fun station _ => Bool.and_self _

end Criteria

end StationFinder
