import StationFinder.Page.Index
import StationFinder.Page.StationList
import Mathlib.Data.Option.Basic
import Mathlib.Tactic.SplitIfs

/-!
# Proofs/Page/Delimiters — no text can be taken for markup

A browser tells markup from text by four characters, the *delimiters*.  `Markup.Alike` says of two
parts of pages that they have the same delimiters in the same order.  An escaped text has none, so
texts can be exchanged at will (`Alike.text`); the relation is kept by everything that pages are put
together from, and so two pages of one shape are alike, whatever their texts are
(`IndexPage.SameShape.alike`).  What a search found is spliced into the page as it stands; it may,
because it is a list of stations, which was escaped when it was written.
-/

namespace StationFinder

/-- Whether a character tells markup from text. -/
def isDelimiter (c : Char) : Bool := c = '<' || c = '>' || c = '"' || c = '\x27'

/-- The delimiters of a text, in their order. -/
def delimiters (s : List Char) : List Char := s.filter isDelimiter

theorem delimiters_append (s t : List Char) :
    delimiters (s ++ t) = delimiters s ++ delimiters t := List.filter_append s t

/-- An escaped character has no delimiters. -/
theorem delimiters_escapeMarkup (c : Char) : delimiters (escapeMarkup c) = [] := by
  rw [escapeMarkup]
  split_ifs with hamp hlt hgt hquote hapostrophe
  · rfl
  · rfl
  · rfl
  · rfl
  · rfl
  · simp [delimiters, isDelimiter, hlt, hgt, hquote, hapostrophe]

/-- **An escaped text has no delimiters.** -/
theorem delimiters_text (s : String) : delimiters (Piece.text s).write = [] := by
  show delimiters (s.toList.flatMap escapeMarkup) = []
  induction s.toList with
  | nil => rfl
  | cons c cs ih =>
    rw [List.flatMap_cons, delimiters_append, delimiters_escapeMarkup, ih, List.append_nil]

/-- No tag begins in an escaped text. -/
theorem lt_not_mem_text (s : String) : '<' ∉ (Piece.text s).write := by
  intro hmem
  exact List.filter_eq_nil_iff.mp (delimiters_text s) '<' hmem rfl

/-! ## Parts of pages that are alike -/

namespace Markup

/-- Two parts of pages have the same delimiters in the same order. -/
def Alike (p q : Markup) : Prop := delimiters p.write = delimiters q.write

namespace Alike

variable {p q p' q' : Markup}

protected theorem refl (p : Markup) : Alike p p := rfl

theorem append (h : Alike p q) (h' : Alike p' q') : Alike (p ++ p') (q ++ q') := by
  rw [Alike, write_append, write_append, delimiters_append, delimiters_append, h, h']

theorem cons (piece : Piece) (h : Alike p q) : Alike (piece :: p) (piece :: q) :=
  append (.refl [piece]) h

/-- **A text can be exchanged for any other.** -/
theorem text (s s' : String) (h : Alike p q) : Alike (.text s :: p) (.text s' :: q) := by
  have hwrite (s : String) (p : Markup) :
      delimiters (Markup.write (.text s :: p)) = delimiters p.write := by
    show delimiters ((Piece.text s).write ++ p.write) = _
    rw [delimiters_append, delimiters_text, List.nil_append]
  rw [Alike, hwrite, hwrite, h]

/-- Parts that repeat a pattern are alike, if what tells their instances apart is the same. -/
theorem flatMap {α β : Type} {part part' : α → Markup} {trait : α → β}
    (hpart : ∀ a b, trait a = trait b → Alike (part a) (part' b)) {as bs : List α}
    (h : as.map trait = bs.map trait) : Alike (as.flatMap part) (bs.flatMap part') := by
  induction as generalizing bs with
  | nil =>
    rw [List.map_nil, eq_comm, List.map_eq_nil_iff] at h
    rw [h]
    exact .refl _
  | cons a as ih =>
    cases bs with
    | nil => cases h
    | cons b bs =>
      obtain ⟨hab, htail⟩ := List.cons.inj h
      rw [List.flatMap_cons, List.flatMap_cons]
      exact (hpart a b hab).append (ih htail)

end Alike

end Markup

/-! ## Lists of stations -/

/-- Stations that are open or closed alike look alike. -/
theorem StationView.markup_alike (heading heading' : String) {view view' : StationView}
    (h : view.isOpen = view'.isOpen) :
    (view.markup heading).Alike (view'.markup heading') := by
  have hbadge : view.badge = view'.badge := by rw [badge, badge, h]
  rw [markup, markup, hbadge]
  exact .cons _ <| .text _ _ <| .cons _ <| .cons _ <| .cons _ <| .text _ _ <| .cons _ <|
    .text _ _ <| .cons _ <| .text _ _ <| .cons _ <| .text _ _ <| .cons _ <| .text _ _ <| .refl _

/-- Two lists have the same number of stations, which are open or closed alike. -/
def StationList.SameShape (list list' : StationList) : Prop :=
  list.stations.map (·.isOpen) = list'.stations.map (·.isOpen)

/-- **Lists of stations of one shape are alike.** -/
theorem StationList.SameShape.alike {list list' : StationList} (h : list.SameShape list') :
    list.markup.Alike list'.markup := by
  have hempty : list.stations.isEmpty = list'.stations.isEmpty := by
    rw [Bool.eq_iff_iff, List.isEmpty_iff_length_eq_zero, List.isEmpty_iff_length_eq_zero,
      ← List.length_map (·.isOpen), h, List.length_map]
  have hbody : list.body.Alike list'.body := by
    rw [StationList.body, StationList.body, hempty]
    split
    · exact .refl _
    · exact .append (.append (.refl _)
        (.flatMap (fun _ _ hopen => StationView.markup_alike _ _ hopen) h)) (.refl _)
  exact .append (.cons _ <| .text _ _ <| .refl _) hbody

/-! ## Pages -/

theorem Choice.markup_alike {choice choice' : Choice} (h : choice.selected = choice'.selected) :
    choice.markup.Alike choice'.markup := by
  rw [markup, markup, h]
  exact .cons _ <| .text _ _ <| .cons _ <| .cons _ <| .cons _ <| .text _ _ <| .refl _

namespace IndexPage

variable {page page' : IndexPage}

/-- What two pages show of a search: lists of stations of one shape, as they were written. -/
def ShowListsAlike (results results' : Markup) : Prop :=
  ∃ list list' : StationList, results.html = list.markup.html
    ∧ results'.html = list'.markup.html ∧ list.SameShape list'

/-- Two pages differ in nothing but their texts: they offer equally many things, of which the same
are selected, and show the same parts. -/
structure SameShape (page page' : IndexPage) : Prop where
  provinces : page.provinces.map (·.selected) = page'.provinces.map (·.selected)
  municipalities : page.municipalities.map (·.selected) = page'.municipalities.map (·.selected)
  fuels : page.fuels.map (·.selected) = page'.fuels.map (·.selected)
  openNow : page.openNow = page'.openNow
  complaint : page.complaint.isSome = page'.complaint.isSome
  results : Option.Rel ShowListsAlike page.results page'.results

theorem list_alike (id name label : String) {choices choices' : List Choice}
    (h : choices.map (·.selected) = choices'.map (·.selected)) :
    (list id name label choices).Alike (list id name label choices') :=
  .append (.append (.refl _) (.flatMap (fun _ _ hsel => Choice.markup_alike hsel) h)) (.refl _)

theorem SameShape.form_alike (h : page.SameShape page') : page.form.Alike page'.form := by
  rw [form, form, h.openNow]
  exact .append (.append (.append (.append (.refl _) (list_alike _ _ _ h.provinces))
    (list_alike _ _ _ h.municipalities)) (list_alike _ _ _ h.fuels)) (.refl _)

theorem complaintMarkup_alike {complaint complaint' : Option String}
    (h : complaint.isSome = complaint'.isSome) :
    (complaintMarkup complaint).Alike (complaintMarkup complaint') := by
  cases complaint with
  | none =>
    cases complaint' with
    | none => exact .refl _
    | some _ => cases h
  | some _ =>
    cases complaint' with
    | none => cases h
    | some _ => exact .cons _ <| .text _ _ <| .refl _

theorem resultsMarkup_alike {results results' : Option Markup}
    (h : Option.Rel ShowListsAlike results results') :
    (resultsMarkup results).Alike (resultsMarkup results') := by
  cases h with
  | none => exact .refl _
  | some hlists =>
    obtain ⟨list, list', hlist, hlist', hshape⟩ := hlists
    have hspliced : Markup.Alike _ _ := hshape.alike
    rw [Markup.Alike, ← String.ofList_inj.mp hlist, ← String.ofList_inj.mp hlist'] at hspliced
    exact .append (.append (.refl _) hspliced) (.refl _)

/-- **Pages of one shape are alike.** -/
theorem SameShape.alike (h : page.SameShape page') : page.markup.Alike page'.markup :=
  .append (.append (.append (.append (.append (.refl _) h.form_alike)
    (complaintMarkup_alike h.complaint)) (.refl _)) (resultsMarkup_alike h.results)) (.refl _)

/-- **No text can be taken for markup.**  Two pages that differ in nothing but their texts have the
same delimiters in the same order, and so have two lists of stations; so there is no text with which
a tag or an attribute begins or ends. -/
theorem texts_bring_no_delimiters :
    (∀ page page' : IndexPage, page.SameShape page' →
        delimiters page.markup.html.toList = delimiters page'.markup.html.toList)
      ∧ ∀ list list' : StationList, list.SameShape list' →
        delimiters list.markup.html.toList = delimiters list'.markup.html.toList := by
  refine ⟨fun page page' h => ?_, fun list list' h => ?_⟩
  · rw [Markup.html, Markup.html, String.toList_ofList, String.toList_ofList]
    exact h.alike
  · rw [Markup.html, Markup.html, String.toList_ofList, String.toList_ofList]
    exact h.alike

/-- Texts that try to end what they stand in, in the place of harmless ones. -/
theorem hostile_texts_bring_no_delimiters :
    let list : StationList := ⟨[⟨"</h3><script>", "\x27", "\"", "<b>", true⟩], some "<i>", "-->"⟩
    let list' : StationList := ⟨[⟨"REPSOL", "", "N/A", "L-D: 24H", true⟩], none, "L 09:00"⟩
    let page : IndexPage :=
      ⟨[⟨"\"><script>", "&lt;<", true⟩], [], [], true, some list.markup, some "</p>"⟩
    let page' : IndexPage := ⟨[⟨"28", "MADRID", true⟩], [], [], true, some list'.markup, some ""⟩
    delimiters page.markup.html.toList = delimiters page'.markup.html.toList
      ∧ delimiters list.markup.html.toList = delimiters list'.markup.html.toList :=
  ⟨texts_bring_no_delimiters.1 _ _
    ⟨rfl, rfl, rfl, rfl, rfl, .some ⟨_, _, rfl, rfl, rfl⟩⟩, texts_bring_no_delimiters.2 _ _ rfl⟩

end IndexPage

end StationFinder
