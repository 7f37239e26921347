import StationFinder.Proofs.Page.Delimiters
import StationFinder.Proofs.Page.Reading
import StationFinder.Proofs.Text.Between

/-!
# Proofs/Page/Recovery — a list of stations is found again in its page

A visitor who sees nothing but the part of a page with the stations finds in it all that the part
was made of (`StationList.ofHtml?`).  The texts of a station stand between *landmarks*, parts of the
markup that are the same for every station.  Each landmark has the beginning of a tag and no text
has one, so a text ends where its landmark is first found, whatever the text is
(`StationView.next?_append`), and a browser reads it as it was meant (`Html.shown_text`).  The
stations follow one another up to the end, where no landmark is left.
-/

namespace StationFinder

/-! ## What a browser shows -/

namespace Html

/-- The character that a browser shows, where it does. -/
def Token.char? : Token → Option Char
  | .char c => some c
  | .tag _ => none

/-- What a browser shows of a part of a page. -/
def shown (part : List Char) : String := String.ofList ((scan .text part).1.filterMap Token.char?)

/-- **An escaped text is shown as the text.** -/
theorem shown_text (s : String) : shown (Piece.text s).write = s := by
  have hchars : (s.toList.map Token.char).filterMap Token.char? = s.toList := by
    rw [List.filterMap_map]
    exact List.filterMap_some
  rw [shown, Piece.write, scan_text, hchars, String.ofList_toList]

end Html

/-! ## Stations -/

namespace StationView

/-- What stands in front of the brand, behind it, and behind each of the other texts. -/
def landmarks : List String :=
  ["\n<div class=\"station\">\n    <h3>", " <span class=\"badge ",
    "</span></h3>\n    <p><strong>Address:</strong> ", "</p>\n    <p><strong>", ":</strong> ",
    "</p>\n    <p><strong>Schedule:</strong> ", "</p>\n</div>\n"]

/-- The badge of a station, with the word in it. -/
def badgeText (view : StationView) : List Char :=
  view.badge.toList ++ ("\">".toList ++ (Piece.text view.status).write)

/-- The next station of a page, under the heading for its price, and what stands behind it. -/
def next? (page : List Char) : Option ((String × StationView) × List Char) :=
  match Text.cutAll? (landmarks.map String.toList) page with
  | some ([_, brand, badge, address, heading, price, schedule], rest) =>
    let view : StationView :=
      { brand := Html.shown brand
        address := Html.shown address
        price := Html.shown price
        schedule := Html.shown schedule
        isOpen := badge = "open\">Open".toList }
    some ((Html.shown heading, view), rest)
  | _ => none

theorem length_lt_of_next? {page rest : List Char} {entry : String × StationView}
    (h : next? page = some (entry, rest)) : rest.length < page.length := by
  rw [next?] at h
  split at h
  · next hcut =>
    cases h
    have hle := Text.length_of_cutAll? hcut
    have hpos : 0 < (landmarks.map String.toList).flatten.length := by decide +kernel
    omega
  · cases h

/-- The stations of a page, each under the heading for its price. -/
def entries (page : List Char) : List (String × StationView) :=
  match _hnext : next? page with
  | some (entry, rest) => entry :: entries rest
  | none => []
termination_by page.length
decreasing_by exact length_lt_of_next? _hnext

theorem entries_of_next? {page rest : List Char} {entry : String × StationView}
    (h : next? page = some (entry, rest)) : entries page = entry :: entries rest := by
  rw [entries, h]

theorem entries_of_none {page : List Char} (h : next? page = none) : entries page = [] := by
  rw [entries, h]

theorem badgeText_eq (view : StationView) : view.badgeText
    = if view.isOpen then "open\">Open".toList else "closed\">Closed".toList := by
  rw [badgeText, badge, status]
  cases view.isOpen <;> decide +kernel

/-- The badge tells whether the station is open. -/
theorem decide_badgeText (view : StationView) :
    decide (view.badgeText = "open\">Open".toList) = view.isOpen := by
  rw [badgeText_eq]
  cases view.isOpen <;> decide +kernel

/-- No tag begins in a badge. -/
theorem lt_not_mem_badgeText (view : StationView) : '<' ∉ view.badgeText := by
  rw [badgeText_eq]
  cases view.isOpen <;> decide +kernel

/-- **A station is found again**, whatever its texts are. -/
theorem next?_append (heading : String) (view : StationView) {front : List Char}
    (hfront : '<' ∉ front) (back : List Char) :
    next? (front ++ (Markup.write (view.markup heading) ++ back))
      = some ((heading, view), back) := by
  have hpage : front ++ (Markup.write (view.markup heading) ++ back)
      = (List.zipWith (· ++ ·) [front, (Piece.text view.brand).write, view.badgeText,
          (Piece.text view.address).write, (Piece.text heading).write,
          (Piece.text view.price).write, (Piece.text view.schedule).write]
        (landmarks.map String.toList)).flatten ++ back := by
    simp only [markup, badgeText, landmarks, Markup.write_cons, Markup.write_nil, Piece.write,
      List.map_cons, List.map_nil, List.zipWith_cons_cons, List.zipWith_nil_left, List.flatten_cons,
      List.flatten_nil, List.append_assoc, List.append_nil]
  have hlandmarks : ∀ sep ∈ landmarks.map String.toList, '<' ∈ sep := by decide +kernel
  have htexts : ∀ text ∈ [front, (Piece.text view.brand).write, view.badgeText,
      (Piece.text view.address).write, (Piece.text heading).write,
      (Piece.text view.price).write, (Piece.text view.schedule).write], '<' ∉ text := by
    simp [hfront, lt_not_mem_text, lt_not_mem_badgeText]
  rw [next?, hpage, Text.cutAll?_append hlandmarks htexts rfl back]
  simp only [Html.shown_text, decide_badgeText]

/-- Where no tag begins there is no station. -/
theorem next?_eq_none {page : List Char} (h : '<' ∉ page) : next? page = none := by
  have hcut : Text.cut? "\n<div class=\"station\">\n    <h3>".toList page = none := by
    rw [Text.cut?_eq_none_iff]
    exact fun hwithin => h (hwithin.subset (by decide +kernel))
  rw [next?, landmarks, List.map_cons, Text.cutAll?_eq_none hcut]

/-- **All stations are found again**, each under its heading. -/
theorem entries_write (heading : String) (views : List StationView) {front : List Char}
    (hfront : '<' ∉ front) :
    entries (front ++ (Markup.write (views.flatMap (markup heading)) ++ ['\n']))
      = views.map (heading, ·) := by
  induction views generalizing front with
  | nil =>
    have hlast : '<' ∉ front ++ ['\n'] := by simp [hfront]
    exact entries_of_none (next?_eq_none hlast)
  | cons view views ih =>
    have hrest := ih (List.not_mem_nil (a := '<'))
    rw [List.nil_append] at hrest
    rw [List.flatMap_cons, Markup.write_append, List.append_assoc,
      entries_of_next? (next?_append heading view hfront _), hrest]
    rfl

end StationView

/-! ## Lists of stations -/

namespace StationList

/-- What stands in front of the time of a list of stations, and behind it. -/
def landmarks : List String :=
  ["<p class=\"evaluated-at\">Opening hours checked at ", ".</p>\n"]

/-- The fuel that is named in the heading of the prices, in brackets. -/
def labelIn? (heading : String) : Option String :=
  (Text.cutAt? '(' heading.toList).map fun parts => String.ofList parts.2.dropLast

/-- The list of stations that a part of a page was made of. -/
def ofHtml? (html : String) : Option StationList :=
  match Text.cutAll? (landmarks.map String.toList) html.toList with
  | some ([_, evaluatedAt], body) =>
    let entries := StationView.entries body
    some ⟨entries.map (·.2), entries.head?.bind fun entry => labelIn? entry.1,
      Html.shown evaluatedAt⟩
  | _ => none

theorem labelIn?_priceHeading (list : StationList) :
    labelIn? list.priceHeading = list.fuelLabel := by
  rw [priceHeading]
  cases list.fuelLabel with
  | none => decide +kernel
  | some label =>
    have hheading : ("Fuel Price (" ++ label ++ ")").toList
        = "Fuel Price ".toList ++ '(' :: (label.toList ++ [')']) := by
      simp
    rw [labelIn?, Text.cutAt?_eq_some_iff.mpr ⟨hheading, by decide +kernel⟩, Option.map_some,
      List.dropLast_concat, String.ofList_toList]

theorem entries_body (list : StationList) :
    StationView.entries (Markup.write list.body) = list.stations.map (list.priceHeading, ·) := by
  rw [body]
  split
  · next hnone =>
    rw [List.isEmpty_iff.mp hnone]
    exact StationView.entries_of_none (by decide +kernel)
  · have hfront : '<' ∉ ['\n'] := by decide
    have hfound := StationView.entries_write list.priceHeading list.stations hfront
    rw [Markup.write_append, Markup.write_append, List.append_assoc]
    exact hfound

/-- **A list of stations is found again in its page**; the fuel is lost where it is not shown, which
is where there are no stations. -/
theorem ofHtml?_html (list : StationList) : ofHtml? list.markup.html
    = some ⟨list.stations, if list.stations = [] then none else list.fuelLabel,
      list.evaluatedAt⟩ := by
  have hpage : list.markup.html.toList
      = (List.zipWith (· ++ ·) [[], (Piece.text list.evaluatedAt).write]
          (landmarks.map String.toList)).flatten ++ Markup.write list.body := by
    simp only [Markup.html, String.toList_ofList, markup, landmarks, Markup.write_append,
      Markup.write_cons, Markup.write_nil, Piece.write, List.map_cons, List.map_nil,
      List.zipWith_cons_cons, List.zipWith_nil_left, List.flatten_cons, List.flatten_nil,
      List.append_assoc, List.append_nil, List.nil_append]
  have hlandmarks : ∀ sep ∈ landmarks.map String.toList, '<' ∈ sep := by decide +kernel
  have htexts : ∀ text ∈ [[], (Piece.text list.evaluatedAt).write], '<' ∉ text := by
    simp [lt_not_mem_text]
  rw [ofHtml?, hpage, Text.cutAll?_append hlandmarks htexts rfl (Markup.write list.body)]
  simp only [entries_body, Html.shown_text, List.map_map, List.head?_map]
  cases list.stations with
  | nil => rfl
  | cons view views => simp [labelIn?_priceHeading, Function.comp_def]

/-- **A list of stations loses nothing when it is shown.**  From the page of a list that has
stations the list is found again, whatever its texts are; from the page of a list that has none, the
time of the search is.  So lists that differ in what they show have different pages. -/
theorem found_again_in_page :
    (∀ list : StationList, list.stations ≠ [] → ofHtml? list.markup.html = some list)
      ∧ (∀ list : StationList, list.stations = [] →
        ofHtml? list.markup.html = some ⟨[], none, list.evaluatedAt⟩)
      ∧ ∀ list list' : StationList, list.markup.html = list'.markup.html →
        list.evaluatedAt = list'.evaluatedAt ∧ list.stations = list'.stations
          ∧ (list.stations ≠ [] → list.fuelLabel = list'.fuelLabel) := by
  have hfound {list : StationList} (h : list.stations ≠ []) :
      ofHtml? list.markup.html = some list := by
    rw [ofHtml?_html, if_neg h]
  refine ⟨fun list h => hfound h, fun list h => ?empty, fun list list' h => ?differ⟩
  case empty => rw [ofHtml?_html, h, if_pos rfl]
  case differ =>
    have heq := ofHtml?_html list
    rw [h, ofHtml?_html list', Option.some.injEq, mk.injEq] at heq
    refine ⟨heq.2.2.symm, heq.1.symm, fun hne => ?_⟩
    have hlabel := heq.2.1
    rw [heq.1, if_neg hne, if_neg hne] at hlabel
    exact hlabel.symm

/-- Texts that try to end what they stand in, or look as if they were escaped already. -/
theorem hostile_texts_found_again :
    let list : StationList := ⟨[⟨"</h3>\n", "&amp;", "</p>\n</div>\n", " ", false⟩,
      ⟨"REPSOL", "", "(1.459)", "L-D: 24H", true⟩], some "95 (E5)", ".</p>\n"⟩
    let none : StationList := ⟨[], some "95 (E5)", "<p>"⟩
    ofHtml? list.markup.html = some list ∧ ofHtml? none.markup.html = some ⟨[], .none, "<p>"⟩ :=
  ⟨found_again_in_page.1 _ (List.cons_ne_nil _ _), found_again_in_page.2.1 _ rfl⟩

end StationList

end StationFinder
