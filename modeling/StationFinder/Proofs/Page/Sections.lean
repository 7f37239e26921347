import StationFinder.Proofs.Page.Delimiters
import StationFinder.Proofs.Text.Between

/-!
# Proofs/Page/Sections — what is found on a page

Whoever reads a page finds what came of a search in two places: in the section for stations
(`resultsOf?`) and in the paragraph for complaints (`complaintOf?`).  Both are looked for by the tag
they begin with.  An escaped text has no tags, so a tag begins nowhere but where the markup has it
(`Markup.Avoids.write`), and what is found is what was put there (`IndexPage.resultsOf?_markup`,
`IndexPage.complaintOf?_markup`).
-/

namespace StationFinder

/-! ## Where no tag begins -/

theorem avoids_text (sep : List Char) (s : String) :
    Text.avoids ('<' :: sep) (Piece.text s).write = true :=
  Text.avoids_of_not_mem (lt_not_mem_text s) sep

namespace Markup

/-- A separator begins nowhere in the markup of a part of a page. -/
def Avoids (sep : List Char) (page : Markup) : Prop :=
  ∀ s, Piece.markup s ∈ page → Text.avoids sep s.toList = true

namespace Avoids

variable {sep cs : List Char} {s : String} {p q : Markup}

theorem nil : Avoids sep [] := fun _ hmem => absurd hmem List.not_mem_nil

theorem markup (hs : Text.avoids sep s.toList = true) (h : Avoids sep p) :
    Avoids sep (.markup s :: p) := by
  intro s' hmem
  rcases List.mem_cons.mp hmem with heq | hmem
  · obtain rfl := Piece.markup.inj heq
    exact hs
  · exact h s' hmem

theorem literal (hs : s = String.ofList cs) (hcs : Text.avoids sep cs = true) (h : Avoids sep p) :
    Avoids sep (.markup s :: p) := markup (Text.avoids_toList hs hcs) h

theorem text (h : Avoids sep p) : Avoids sep (.text s :: p) := by
  intro s' hmem
  rcases List.mem_cons.mp hmem with heq | hmem
  · cases heq
  · exact h s' hmem

theorem append (hp : Avoids sep p) (hq : Avoids sep q) : Avoids sep (p ++ q) :=
  fun s hmem => (List.mem_append.mp hmem).elim (hp s) (hq s)

theorem flatMap {α : Type} {part : α → Markup} (hpart : ∀ a, Avoids sep (part a)) (as : List α) :
    Avoids sep (as.flatMap part) := by
  intro s hmem
  obtain ⟨a, -, hmem⟩ := List.mem_flatMap.mp hmem
  exact hpart a s hmem

/-- **A tag that begins nowhere in the markup begins nowhere in the page.** -/
theorem write (h : Avoids ('<' :: sep) p) : Text.avoids ('<' :: sep) (Markup.write p) = true := by
  induction p with
  | nil => rfl
  | cons piece p ih =>
    have htail : Avoids ('<' :: sep) p := fun s hmem => h s (List.mem_cons_of_mem piece hmem)
    have hpiece : Text.avoids ('<' :: sep) piece.write = true := by
      cases piece with
      | markup s => exact h s List.mem_cons_self
      | text s => exact avoids_text sep s
    exact Text.avoids_append hpiece (ih htail)

end Avoids

end Markup

/-! ## Two places on a page -/

/-- What the tag of the paragraph for complaints begins with. -/
def complaintTag : List Char := '<' :: "p id=\"form-error\" class=\"error\"".toList

/-- What the paragraph for complaints ends with. -/
def complaintEnd : List Char := '<' :: "/p>".toList

/-- The tag of the section for stations. -/
def resultsTag : List Char := '<' :: "section id=\"gas-stations-list\">".toList

/-- What the section for stations ends with. -/
def resultsEnd : List Char := '<' :: "/section>".toList

/-- What stands in the section for stations of a page. -/
def resultsOf? (page : List Char) : Option (List Char) :=
  Text.between? resultsTag resultsEnd page

/-- The paragraph for complaints of a page: what is left of its tag, and what it says. -/
def complaintOf? (page : List Char) : Option (List Char × List Char) := do
  let (_, paragraph) ← Text.cut? complaintTag page
  let (tag, rest) ← Text.cutAt? '>' paragraph
  let (text, _) ← Text.cut? complaintEnd rest
  return (tag, text)

theorem complaintOf?_append {front tag text : List Char}
    (hfront : Text.avoids complaintTag front = true) (htag : '>' ∉ tag)
    (htext : Text.avoids complaintEnd text = true) (back : List Char) :
    complaintOf? (front ++ (complaintTag ++ (tag ++ '>' :: (text ++ (complaintEnd ++ back)))))
      = some (tag, text) := by
  have hcut : Text.cutAt? '>' (tag ++ '>' :: (text ++ (complaintEnd ++ back)))
      = some (tag, text ++ (complaintEnd ++ back)) := Text.cutAt?_eq_some_iff.mpr ⟨rfl, htag⟩
  simp only [complaintOf?, Text.cut?_append hfront, hcut, Text.cut?_append htext,
    Option.bind_eq_bind, Option.bind_some]
  rfl

/-! ## Parts of a page without them -/

theorem StationView.markup_avoids (heading : String) (view : StationView) :
    Markup.Avoids resultsEnd (view.markup heading) := by
  have hbadge : Text.avoids resultsEnd view.badge.toList = true := by
    rw [badge]
    split <;> exact Text.avoids_toList rfl rfl
  exact .literal rfl rfl <| .text <| .literal rfl rfl <| .markup hbadge <| .literal rfl rfl <|
    .text <| .literal rfl rfl <| .text <| .literal rfl rfl <| .text <| .literal rfl rfl <| .text <|
    .literal rfl rfl <| .text <| .literal rfl rfl .nil

/-- A list of stations does not end the section that it stands in. -/
theorem StationList.markup_avoids (list : StationList) :
    Markup.Avoids resultsEnd list.markup := by
  have hbody : Markup.Avoids resultsEnd list.body := by
    rw [body]
    split
    · exact .literal rfl rfl .nil
    · exact .append (.append (.literal rfl rfl .nil)
        (.flatMap (StationView.markup_avoids list.priceHeading) list.stations))
        (.literal rfl rfl .nil)
  exact .append (.literal rfl rfl <| .text <| .literal rfl rfl .nil) hbody

namespace IndexPage

variable {page : IndexPage}

section Front

variable {sep : List Char} (hsep : sep = complaintTag ∨ sep = resultsTag)

include hsep

theorem avoids_literal {cs : List Char} {s : String} (hs : s = String.ofList cs)
    (hcomplaint : Text.avoids complaintTag cs = true)
    (hresults : Text.avoids resultsTag cs = true) : Text.avoids sep s.toList = true := by
  rcases hsep with rfl | rfl
  · exact Text.avoids_toList hs hcomplaint
  · exact Text.avoids_toList hs hresults

theorem literal_avoids {cs : List Char} {s : String} {p : Markup} (hs : s = String.ofList cs)
    (hcomplaint : Text.avoids complaintTag cs = true)
    (hresults : Text.avoids resultsTag cs = true) (h : Markup.Avoids sep p) :
    Markup.Avoids sep (.markup s :: p) :=
  .markup (avoids_literal hsep hs hcomplaint hresults) h

theorem avoids_header : Text.avoids sep header.toList = true := by
  -- line by line: the whole text is too long to be evaluated at once
  delta header
  repeat' with_reducible apply Text.avoids_toList_append
  all_goals exact avoids_literal hsep rfl rfl rfl

theorem choice_avoids (choice : Choice) : Markup.Avoids sep choice.markup := by
  have hselected : Text.avoids sep (if choice.selected then " selected" else "").toList = true := by
    split <;> exact avoids_literal hsep rfl rfl rfl
  exact literal_avoids hsep rfl rfl rfl <| .text <| literal_avoids hsep rfl rfl rfl <|
    .markup hselected <| literal_avoids hsep rfl rfl rfl <| .text <|
    literal_avoids hsep rfl rfl rfl .nil

theorem list_avoids {id name label : String} (hid : Text.avoids sep id.toList = true)
    (hname : Text.avoids sep name.toList = true) (hlabel : Text.avoids sep label.toList = true)
    (choices : List Choice) : Markup.Avoids sep (list id name label choices) := by
  refine .append (.append (.markup ?_ .nil) (.flatMap (choice_avoids hsep) choices)) ?_
  · repeat' with_reducible apply Text.avoids_toList_append
    all_goals first | with_reducible assumption | exact avoids_literal hsep rfl rfl rfl
  · exact literal_avoids hsep rfl rfl rfl .nil

/-- Neither of the two places begins in the form. -/
theorem form_avoids (page : IndexPage) : Markup.Avoids sep page.form := by
  have hprovinces : Markup.Avoids sep (list "province" "province" "Province" page.provinces) :=
    list_avoids hsep (avoids_literal hsep rfl rfl rfl) (avoids_literal hsep rfl rfl rfl)
      (avoids_literal hsep rfl rfl rfl) _
  have hmunicipalities : Markup.Avoids sep
      (list "municipality" "municipality" "Municipality" page.municipalities) :=
    list_avoids hsep (avoids_literal hsep rfl rfl rfl) (avoids_literal hsep rfl rfl rfl)
      (avoids_literal hsep rfl rfl rfl) _
  have hfuels : Markup.Avoids sep (list "fuel-type" "fuel" "Fuel type" page.fuels) :=
    list_avoids hsep (avoids_literal hsep rfl rfl rfl) (avoids_literal hsep rfl rfl rfl)
      (avoids_literal hsep rfl rfl rfl) _
  have hchecked : Text.avoids sep (if page.openNow then " checked" else "").toList = true := by
    split <;> exact avoids_literal hsep rfl rfl rfl
  refine .append (.append (.append (.append (literal_avoids hsep rfl rfl rfl .nil) hprovinces)
    hmunicipalities) hfuels) (.markup ?_ (.markup hchecked (.markup ?_ .nil)))
  all_goals
    exact Text.avoids_toList_append (avoids_literal hsep rfl rfl rfl)
      (avoids_literal hsep rfl rfl rfl)

end Front

/-- What stands in front of the two places. -/
def front (page : IndexPage) : Markup := Piece.markup header :: page.form

theorem front_avoids {sep : List Char} (hsep : sep = complaintTag ∨ sep = resultsTag)
    (page : IndexPage) : Markup.Avoids sep page.front :=
  .markup (avoids_header hsep) (form_avoids hsep page)

/-- What is wrong with a search does not look like the section for stations. -/
theorem complaintMarkup_avoids (complaint : Option String) :
    Markup.Avoids resultsTag (complaintMarkup complaint) := by
  cases complaint with
  | none => exact .literal rfl rfl .nil
  | some complaint => exact .literal rfl rfl <| .text <| .literal rfl rfl .nil

/-- What stands in the section for stations. -/
def inside (page : IndexPage) : Markup :=
  [Piece.markup "\n"] ++ resultsMarkup page.results ++ [Piece.markup "\n"]

/-- What stands behind the section for stations. -/
def back : Markup := [.markup "\n", .markup footer]

/-! ## What is found -/

theorem write_complaintMarkup (complaint : Option String) : (complaintMarkup complaint).write
    = ['\n'] ++ (complaintTag ++ ((if complaint.isSome then [] else " hidden".toList)
      ++ '>' :: ((complaint.elim [] fun text => (Piece.text text).write)
        ++ (complaintEnd ++ ['\n'])))) := by
  cases complaint with
  | none => decide +kernel
  | some text =>
    have hopen : (Piece.markup "\n<p id=\"form-error\" class=\"error\">").write
        = ['\n'] ++ (complaintTag ++ ['>']) := by
      decide +kernel
    have hclose : (Piece.markup "</p>\n").write = complaintEnd ++ ['\n'] := by
      decide +kernel
    simp only [complaintMarkup, Markup.write_cons, Markup.write_nil, hopen, hclose,
      Option.isSome_some, if_true, Option.elim_some, List.append_assoc, List.cons_append,
      List.nil_append, List.append_nil]

theorem write_markup (page : IndexPage) : page.markup.write
    = page.front.write ++ ((complaintMarkup page.complaint).write ++ (['\n', '\n'] ++
      (resultsTag ++ (page.inside.write ++ (resultsEnd ++ back.write))))) := by
  have hopen : (Piece.markup "\n\n<section id=\"gas-stations-list\">\n").write
      = ['\n', '\n'] ++ (resultsTag ++ (Piece.markup "\n").write) := by
    decide +kernel
  have hclose : (Piece.markup "\n</section>\n").write
      = (Piece.markup "\n").write ++ (resultsEnd ++ (Piece.markup "\n").write) := by
    decide +kernel
  simp only [markup, front, inside, back, Markup.write_append, Markup.write_cons, hopen, hclose,
    Markup.write_nil, List.append_assoc, List.append_nil]

/-- **What is found in the section for stations** is what the page shows of a search. -/
theorem resultsOf?_markup
    (h : ∀ results, page.results = some results → Markup.Avoids resultsEnd results) :
    resultsOf? page.markup.write = some page.inside.write := by
  have hfront : Text.avoids resultsTag
      (page.front.write ++ ((complaintMarkup page.complaint).write ++ ['\n', '\n'])) = true :=
    Text.avoids_append (front_avoids (.inr rfl) page).write
      (Text.avoids_append (complaintMarkup_avoids page.complaint).write (by decide))
  have hresults : Markup.Avoids resultsEnd (resultsMarkup page.results) := by
    cases hresults : page.results with
    | none => exact .literal rfl rfl .nil
    | some results =>
      exact .append (.append (.literal rfl rfl .nil) (h results hresults)) (.literal rfl rfl .nil)
  have hinside : Markup.Avoids resultsEnd page.inside :=
    .append (.append (.literal rfl rfl .nil) hresults) (.literal rfl rfl .nil)
  have hfound := Text.between?_append hfront hinside.write (Markup.write back)
  simp only [List.append_assoc] at hfound
  rw [write_markup, resultsOf?]
  exact hfound

/-- **What is found in the paragraph for complaints** is the complaint; the paragraph is hidden if
there is none. -/
theorem complaintOf?_markup (page : IndexPage) : complaintOf? page.markup.write
    = some (if page.complaint.isSome then [] else " hidden".toList,
      page.complaint.elim [] fun text => (Piece.text text).write) := by
  have hfront : Text.avoids complaintTag (page.front.write ++ ['\n']) = true :=
    Text.avoids_append (front_avoids (.inl rfl) page).write (by decide)
  have htag : '>' ∉ (if page.complaint.isSome then [] else " hidden".toList) := by
    split
    · exact List.not_mem_nil
    · decide
  have htext : Text.avoids complaintEnd
      (page.complaint.elim [] fun text => (Piece.text text).write) = true := by
    cases page.complaint with
    | none => rfl
    | some text => exact avoids_text _ text
  have hpage : page.markup.write = (page.front.write ++ ['\n']) ++ (complaintTag
      ++ ((if page.complaint.isSome then [] else " hidden".toList) ++ '>'
        :: ((page.complaint.elim [] fun text => (Piece.text text).write) ++ (complaintEnd
          ++ (['\n', '\n', '\n'] ++ (resultsTag ++ (page.inside.write
            ++ (resultsEnd ++ back.write)))))))) := by
    rw [write_markup, write_complaintMarkup]
    simp only [List.append_assoc, List.cons_append, List.nil_append]
  rw [hpage]
  exact complaintOf?_append hfront htag htext _

end IndexPage

/-! ## What a page shows of a search -/

/-- A page shows a list of stations, between line breaks, and no complaint. -/
def ShowsList (page list : String) : Prop :=
  resultsOf? page.toList = some (['\n', '\n'] ++ list.toList ++ ['\n', '\n'])
    ∧ complaintOf? page.toList = some (" hidden".toList, [])

/-- A page shows a complaint, and nothing but line breaks where the stations would be. -/
def ShowsComplaint (page complaint : String) : Prop :=
  resultsOf? page.toList = some ['\n', '\n', '\n']
    ∧ complaintOf? page.toList = some ([], complaint.toList.flatMap escapeMarkup)

/-- A page shows neither stations nor a complaint. -/
def ShowsNothing (page : String) : Prop :=
  resultsOf? page.toList = some ['\n', '\n', '\n']
    ∧ complaintOf? page.toList = some (" hidden".toList, [])

namespace IndexPage

variable {page : IndexPage}

theorem resultsOf?_of_none (h : page.results = none) :
    resultsOf? page.markup.html.toList = some ['\n', '\n', '\n'] := by
  have hinside : page.inside.write = ['\n', '\n', '\n'] := by
    rw [inside, h]
    rfl
  rw [Markup.html, String.toList_ofList, resultsOf?_markup (by simp [h]), hinside]

theorem showsList {list : StationList} (h : page.results = some list.markup)
    (hcomplaint : page.complaint = none) : ShowsList page.markup.html list.markup.html := by
  have havoids : ∀ results, page.results = some results → Markup.Avoids resultsEnd results := by
    intro results hresults
    obtain rfl := Option.some.inj (h.symm.trans hresults)
    exact list.markup_avoids
  have hinside : page.inside.write = ['\n', '\n'] ++ list.markup.write ++ ['\n', '\n'] := by
    rw [inside, h]
    simp only [resultsMarkup, Markup.write_append, List.append_assoc]
    rfl
  rw [ShowsList, Markup.html, Markup.html, String.toList_ofList, String.toList_ofList,
    resultsOf?_markup havoids, complaintOf?_markup, hcomplaint, hinside]
  exact ⟨rfl, rfl⟩

theorem showsComplaint {complaint : String} (h : page.results = none)
    (hcomplaint : page.complaint = some complaint) :
    ShowsComplaint page.markup.html complaint := by
  refine ⟨resultsOf?_of_none h, ?_⟩
  rw [Markup.html, String.toList_ofList, complaintOf?_markup, hcomplaint]
  rfl

theorem showsNothing (h : page.results = none) (hcomplaint : page.complaint = none) :
    ShowsNothing page.markup.html := by
  refine ⟨resultsOf?_of_none h, ?_⟩
  rw [Markup.html, String.toList_ofList, complaintOf?_markup, hcomplaint]
  rfl

end IndexPage

end StationFinder
