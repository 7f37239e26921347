import StationFinder.Page.StationList
import StationFinder.Proofs.Page.Controls

/-!
# Proofs/Page/Rendered — the form of the page, as a browser finds it

The page with the search form has one form and nothing else that belongs to one: a list of stations
is quiet, and so is a complaint.  The controls of the form offer what the page was made of, with the
same things selected and the box ticked or not (`IndexPage.forms_markup`).
-/

namespace StationFinder

open Html

/-! ## The form -/

namespace IndexPage

/-- What stands in front of the things that a list offers. -/
def nothingChosen : Choice := ⟨"", "Select an option", false⟩

/-- The lists of the form: their ids, their names and their labels. -/
def lists : List (String × String × String) :=
  [("province", "province", "Province"), ("municipality", "municipality", "Municipality"),
    ("fuel-type", "fuel", "Fuel type")]

set_option maxRecDepth 2000 in
/-- **A list of the form is read as a list that offers the same.** -/
theorem reads_list {id name label : String} (hlist : (id, name, label) ∈ lists) (form : Form)
    (choices : List Choice) :
    Reads (list id name label choices) ⟨[], some form, none, none⟩
      (Outline.add ⟨[], some form, none, none⟩ (.select name (nothingChosen :: choices))) := by
  have hclose : Reads [.markup "\n    </select>\n\n"]
      ⟨[], some form, some (name, [nothingChosen] ++ choices), none⟩
      (Outline.add ⟨[], some form, none, none⟩ (.select name (nothingChosen :: choices))) :=
    .literal rfl rfl rfl
  refine Reads.append (.append ?_ (reads_choices choices name [nothingChosen])) hclose
  simp only [lists, List.mem_cons, List.not_mem_nil, or_false, Prod.mk.injEq] at hlist
  obtain ⟨rfl, rfl, rfl⟩ | ⟨rfl, rfl, rfl⟩ | ⟨rfl, rfl, rfl⟩ := hlist
  all_goals
    apply Reads.of_write
    case hwrite =>
      apply write_markup_eq
      case hs =>
        -- piece by piece: the whole text is too long to be compared at once
        repeat' with_reducible apply toList_append_eq
        all_goals exact toList_eq rfl
      case hp => exact Markup.write_nil
    case hplace => rfl
    case hfold => rfl

set_option maxRecDepth 2000 in
/-- What is left of the form behind its lists. -/
theorem reads_box (openNow : Bool) (controls : List Control) :
    Reads [.markup ("    <label class=\"checkbox\">\n" ++
          "        <input type=\"checkbox\" id=\"open\" name=\"open\""),
        .markup (if openNow then " checked" else ""),
        .markup (">\n        Open now\n    </label>\n\n" ++
          "    <button type=\"submit\" id=\"search\">Search</button>\n</form>\n\n")]
      ⟨[], some ⟨"/", "get", controls⟩, none, none⟩
      ⟨[⟨"/", "get", controls ++ [.checkbox "open" openNow]⟩], none, none, none⟩ := by
  cases openNow
  all_goals
    apply Reads.of_write
    case hwrite =>
      exact write_markup_eq (toList_append_eq (toList_eq rfl) (toList_eq rfl)) <|
        write_markup_eq (toList_eq rfl) <|
        write_markup_eq (toList_append_eq (toList_eq rfl) (toList_eq rfl)) Markup.write_nil
    case hplace => rfl
    case hfold => rfl

/-- The controls of the form, for what a page offers. -/
def controls (page : IndexPage) : List Control :=
  [.select "province" (nothingChosen :: page.provinces),
    .select "municipality" (nothingChosen :: page.municipalities),
    .select "fuel" (nothingChosen :: page.fuels), .checkbox "open" page.openNow]

/-- **The form is read as a form with these controls.** -/
theorem reads_form (page : IndexPage) :
    Reads page.form .blank ⟨[⟨"/", "get", page.controls⟩], none, none, none⟩ := by
  have hopen : Reads [.markup "\n<form id=\"search-form\" action=\"/\" method=\"get\">\n"] .blank
      ⟨[], some ⟨"/", "get", []⟩, none, none⟩ := .literal rfl rfl rfl
  have hprovinces := reads_list (by simp [lists] : ("province", "province", "Province") ∈ lists)
    ⟨"/", "get", []⟩ page.provinces
  have hmunicipalities := reads_list
    (by simp [lists] : ("municipality", "municipality", "Municipality") ∈ lists)
    ⟨"/", "get", [.select "province" (nothingChosen :: page.provinces)]⟩ page.municipalities
  have hfuels := reads_list (by simp [lists] : ("fuel-type", "fuel", "Fuel type") ∈ lists)
    ⟨"/", "get", [.select "province" (nothingChosen :: page.provinces),
      .select "municipality" (nothingChosen :: page.municipalities)]⟩ page.fuels
  exact (((hopen.append hprovinces).append hmunicipalities).append hfuels).append
    (reads_box page.openNow _)

end IndexPage

/-! ## Lists of stations -/

/-- The badge of a station, up to the word in it. -/
theorem StationView.quiet_badge (view : StationView) :
    Quiet [.markup " <span class=\"badge ", .markup view.badge, .markup "\">"] := by
  rw [badge]
  split
  all_goals
    apply Quiet.of_write
    case hwrite =>
      exact write_markup_eq (toList_eq rfl) <| write_markup_eq (toList_eq rfl) <|
        write_markup_eq (toList_eq rfl) Markup.write_nil
    case hplace => rfl
    case hquiet => rfl

theorem StationView.quiet_markup (heading : String) (view : StationView) :
    Quiet (view.markup heading) := by
  have hopen : Quiet [.markup "\n<div class=\"station\">\n    <h3>", .text view.brand] :=
    .cons (.literal rfl rfl rfl) (.text _)
  exact (hopen.append view.quiet_badge).append <| .cons (.text _) <|
    .cons (.literal rfl rfl rfl) <| .cons (.text _) <|
    .cons (.literal rfl rfl rfl) <| .cons (.text _) <|
    .cons (.literal rfl rfl rfl) <| .cons (.text _) <|
    .cons (.literal rfl rfl rfl) <| .cons (.text _) <|
    .literal rfl rfl rfl

/-- **A list of stations tells nothing of forms.** -/
theorem StationList.quiet_markup (list : StationList) : Quiet list.markup := by
  have hbody : Quiet list.body := by
    rw [body]
    split
    · exact .literal rfl rfl rfl
    · exact .append (.append (.literal rfl rfl rfl)
        (.flatMap (StationView.quiet_markup list.priceHeading) list.stations))
        (.literal rfl rfl rfl)
  have hintro : Quiet [.markup "<p class=\"evaluated-at\">Opening hours checked at ",
      .text list.evaluatedAt, .markup ".</p>\n"] :=
    .cons (.literal rfl rfl rfl) <| .cons (.text _) <| .literal rfl rfl rfl
  exact hintro.append hbody

/-! ## The page -/

namespace IndexPage

theorem quiet_header : Quiet [.markup header] := by
  -- line by line: the whole text is too long to be read at once
  delta header
  repeat' with_reducible apply Quiet.markup_append
  all_goals exact .literal rfl rfl rfl

theorem quiet_footer : Quiet [.markup footer] := by
  delta footer
  repeat' with_reducible apply Quiet.markup_append
  all_goals exact .literal rfl rfl rfl

theorem quiet_complaintMarkup (complaint : Option String) :
    Quiet (complaintMarkup complaint) := by
  cases complaint with
  | none => exact .literal rfl rfl rfl
  | some complaint =>
    exact .cons (.literal rfl rfl rfl) <| .cons (.text complaint) <|
      .literal rfl rfl rfl

theorem quiet_resultsMarkup {results : Option Markup} (h : ∀ part ∈ results, Quiet part) :
    Quiet (resultsMarkup results) := by
  have hline : Quiet [.markup "\n"] := .literal rfl rfl rfl
  cases results with
  | none => exact hline
  | some part => exact (hline.append (h part rfl)).append hline

/-- **A page has one form, which offers what the page was made of.**  What a search found is a list
of stations, or another part of a page that tells nothing of forms. -/
theorem forms_markup (page : IndexPage) (hresults : ∀ part ∈ page.results, Quiet part) :
    forms page.markup.html = [⟨"/", "get", page.controls⟩] := by
  have hsection : Quiet [.markup "\n\n<section id=\"gas-stations-list\">\n"] :=
    .literal rfl rfl rfl
  have hend : Quiet [.markup "\n</section>\n", .markup footer] :=
    .cons (.literal rfl rfl rfl) quiet_footer
  have hrest := (((quiet_complaintMarkup page.complaint).append hsection).append
    (quiet_resultsMarkup hresults)).append hend
  have hpage : Reads page.markup .blank ⟨[⟨"/", "get", page.controls⟩], none, none, none⟩ := by
    have hparts := ((quiet_header.reads rfl).append page.reads_form).append (hrest.reads rfl)
    simpa only [markup, List.append_assoc] using hparts
  obtain ⟨ts, hscan, hfold⟩ := hpage
  rw [forms, tokens, Markup.html, String.toList_ofList, hscan, hfold]

end IndexPage

end StationFinder
