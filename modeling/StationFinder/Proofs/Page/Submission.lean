import StationFinder.Proofs.Page.Rendered
import Mathlib.Data.List.Forall2

/-!
# Proofs/Page/Submission — what a form submits

A form that is submitted as it stands submits what its controls show: a list what is selected in it,
or what stands first if nothing is, and a box that it is ticked.  If a list offers what was chosen,
and marks nothing else as selected (`Html.Shows`), then it submits that, and nothing if nothing was
chosen (`Html.submits_list_iff`).  So the form of the page submits what was chosen in it
(`Html.submits_controls_iff`).
-/

namespace StationFinder

namespace Html

/-- What a control contributes when a form is submitted as it stands: a list what is selected in it,
or what stands first if nothing is, and a box that it is ticked if it is. -/
inductive Control.Submits : Control → List (String × String) → Prop
  | selected {name : String} {choices : List Choice} {choice : Choice} (hmem : choice ∈ choices)
      (hselected : choice.selected = true) : Submits (.select name choices) [(name, choice.value)]
  | first {name : String} {choice : Choice} {choices : List Choice}
      (hnone : ∀ c ∈ choice :: choices, c.selected = false) :
      Submits (.select name (choice :: choices)) [(name, choice.value)]
  | empty {name : String} : Submits (.select name []) []
  | ticked {name : String} : Submits (.checkbox name true) [(name, "on")]
  | unticked {name : String} : Submits (.checkbox name false) []

/-- What a form submits as it stands: what its controls contribute, in their order. -/
def Form.Submits (form : Form) (pairs : List (String × String)) : Prop :=
  ∃ parts, List.Forall₂ Control.Submits form.controls parts ∧ parts.flatten = pairs

variable {name : String} {choices : List Choice} {chosen : Option String}
  {pairs : List (String × String)}

/-- What is selected in a list is what was chosen, and the list offers it. -/
structure Shows (choices : List Choice) (chosen : Option String) : Prop where
  selected_iff : ∀ choice ∈ choices, choice.selected = true ↔ chosen = some choice.value
  exists_of_chosen : ∀ value, chosen = some value → ∃ choice ∈ choices, choice.value = value

/-- Areas are offered with the chosen one selected. -/
theorem Shows.areas {kind : AreaKind} {areas : List (Area kind)}
    (h : ∀ value, chosen = some value → ∃ area ∈ areas, area.id.text = value) :
    Shows (areas.map (Choice.ofArea · chosen)) chosen where
  selected_iff := List.forall_mem_map.mpr fun area _ => decide_eq_true_iff
  exists_of_chosen value hvalue := by
    obtain ⟨area, hmem, htext⟩ := h value hvalue
    exact ⟨_, List.mem_map_of_mem hmem, htext⟩

/-- Fuels are offered with the chosen one selected. -/
theorem Shows.fuels (fuel : Option Fuel) :
    Shows (Fuel.all.map (Choice.ofFuel · (fuel.map Fuel.key))) (fuel.map Fuel.key) where
  selected_iff := List.forall_mem_map.mpr fun fuel _ => decide_eq_true_iff
  exists_of_chosen value hvalue := by
    obtain ⟨f, -, rfl⟩ := Option.map_eq_some_iff.mp hvalue
    exact ⟨_, List.mem_map_of_mem (by cases f <;> decide : f ∈ Fuel.all), rfl⟩

/-- **A list submits what was chosen in it**, and nothing if nothing was. -/
theorem submits_list_iff (h : Shows choices chosen) :
    Control.Submits (.select name (IndexPage.nothingChosen :: choices)) pairs
      ↔ pairs = [(name, chosen.getD "")] := by
  constructor
  · intro hsubmits
    cases hsubmits with
    | @selected _ _ choice hmem hselected =>
      rcases List.mem_cons.mp hmem with rfl | hmem
      · cases hselected
      · rw [(h.selected_iff choice hmem).mp hselected, Option.getD_some]
    | first hnone =>
      cases chosen with
      | none => rfl
      | some value =>
        obtain ⟨choice, hmem, rfl⟩ := h.exists_of_chosen value rfl
        have hselected := (h.selected_iff choice hmem).mpr rfl
        rw [hnone choice (List.mem_cons_of_mem _ hmem)] at hselected
        cases hselected
  · rintro rfl
    cases chosen with
    | none =>
      refine .first (List.forall_mem_cons.mpr ⟨rfl, fun choice hmem => ?_⟩)
      rw [← Bool.not_eq_true, h.selected_iff choice hmem]
      simp
    | some value =>
      obtain ⟨choice, hmem, rfl⟩ := h.exists_of_chosen value rfl
      exact .selected (List.mem_cons_of_mem _ hmem) ((h.selected_iff choice hmem).mpr rfl)

/-- A box submits that it is ticked. -/
theorem submits_box_iff {ticked : Bool} :
    Control.Submits (.checkbox name ticked) pairs
      ↔ pairs = if ticked then [(name, "on")] else [] := by
  constructor
  · rintro (_ | _) <;> rfl
  · rintro rfl
    cases ticked with
    | true => exact .ticked
    | false => exact .unticked

/-- What is submitted by a form that shows a search: the province, the municipality, the fuel and
whether stations have to be open. -/
def submittedPairs (province municipality fuel : Option String) (openNow : Bool) :
    List (String × String) :=
  [("province", province.getD ""), ("municipality", municipality.getD ""),
    ("fuel", fuel.getD "")] ++ if openNow then [("open", "on")] else []

/-- A form submits one list of pairs only, if each of its controls does so. -/
theorem Form.submits_iff {form : Form} {parts : List (List (String × String))}
    (h : List.Forall₂ (fun control part => ∀ pairs, Control.Submits control pairs ↔ pairs = part)
      form.controls parts) : form.Submits pairs ↔ pairs = parts.flatten := by
  have hparts (parts' : List (List (String × String))) :
      List.Forall₂ Control.Submits form.controls parts' ↔ parts' = parts := by
    generalize form.controls = controls at h
    induction h generalizing parts' with
    | nil => exact List.forall₂_nil_left_iff
    | cons hpart _ ih => simp [List.forall₂_cons_left_iff, hpart, ih]
  simp only [Form.Submits, hparts, exists_eq_left]
  exact eq_comm

/-- **The form of a page submits what was chosen.** -/
theorem submits_controls_iff {page : IndexPage} {province municipality fuel : Option String}
    (hprovince : Shows page.provinces province)
    (hmunicipality : Shows page.municipalities municipality) (hfuel : Shows page.fuels fuel) :
    Form.Submits ⟨"/", "get", page.controls⟩ pairs
      ↔ pairs = submittedPairs province municipality fuel page.openNow := by
  have hpairs : submittedPairs province municipality fuel page.openNow
      = [[("province", province.getD "")], [("municipality", municipality.getD "")],
        [("fuel", fuel.getD "")], if page.openNow then [("open", "on")] else []].flatten := by
    simp [submittedPairs]
  rw [hpairs]
  exact Form.submits_iff <| .cons (fun _ => submits_list_iff hprovince) <|
    .cons (fun _ => submits_list_iff hmunicipality) <| .cons (fun _ => submits_list_iff hfuel) <|
    .cons (fun _ => submits_box_iff) .nil

end Html

end StationFinder
