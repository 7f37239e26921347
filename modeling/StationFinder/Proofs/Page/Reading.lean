import StationFinder.Page.Markup
import Mathlib.Tactic.SplitIfs

/-!
# Proofs/Page/Reading — how a browser reads a page

A browser takes a page character by character for text and tags.  `Html.scan` does so for the pages
that are written here, where every value of an attribute stands in double quotes and no character
is escaped but the five that `escapeMarkup` escapes.  A page can be read part by part
(`Html.scan_append`), and an escaped text is read as the text, both where text stands
(`Html.scan_text`) and within the quotes of a value (`Html.scan_value`).
-/

namespace StationFinder.Html

/-- A word of a tag: what the tag is, or an attribute and the value that it is given. -/
structure Word where
  name : List Char
  value : Option (List Char)
deriving DecidableEq, Repr

/-- What a page consists of. -/
inductive Token where
  | char (c : Char)
  /-- A tag.  The first of its words says what it is. -/
  | tag (words : List Word)
deriving DecidableEq, Repr

/-- Where a page is being read. -/
inductive Place where
  | text
  /-- In a tag, behind some words and some characters of the next one. -/
  | tag (words : List Word) (word : List Char)
  /-- In the value of an attribute. -/
  | value (words : List Word) (name value : List Char)
  /-- In the name of a character that stands escaped. -/
  | name (outer : Place) (name : List Char)
deriving DecidableEq, Repr

/-- The names of the characters that are escaped. -/
def names : List (List Char × Char) :=
  [("amp".toList, '&'), ("lt".toList, '<'), ("gt".toList, '>'), ("quot".toList, '"'),
    ("#x27".toList, '\x27')]

/-- What a name between `&` and `;` stands for; one that is not known stands for itself. -/
def named (name : List Char) : List Char :=
  match names.lookup name with
  | some c => [c]
  | none => '&' :: name ++ [';']

/-- The word that ends here, unless there is none. -/
def ended (word : List Char) : List Word := if word = [] then [] else [⟨word, none⟩]

/-- Characters are there, as they are meant. -/
def Place.put : Place → List Char → List Token × Place
  | text, cs => (cs.map .char, text)
  | value words key before, cs => ([], value words key (before ++ cs))
  | outer, _ => ([], outer)

/-- Reads a character. -/
def step : Place → Char → List Token × Place
  | .text, '<' => ([], .tag [] [])
  | .text, '&' => ([], .name .text [])
  | .text, c => ([.char c], .text)
  | .tag words word, '>' => ([.tag (words ++ ended word)], .text)
  | .tag words word, ' ' => ([], .tag (words ++ ended word) [])
  -- what stands in front of the quotes ends in the sign of equality
  | .tag words word, '"' => ([], .value words word.dropLast [])
  | .tag words word, c => ([], .tag words (word ++ [c]))
  | .value words key before, '"' => ([], .tag (words ++ [⟨key, some before⟩]) [])
  | .value words key before, '&' => ([], .name (.value words key before) [])
  | .value words key before, c => ([], .value words key (before ++ [c]))
  | .name outer name, ';' => outer.put (named name)
  | .name outer name, c => ([], .name outer (name ++ [c]))

/-- Reads a part of a page. -/
def scan : Place → List Char → List Token × Place
  | place, [] => ([], place)
  | place, c :: s =>
    let (here, next) := step place c
    let (after, last) := scan next s
    (here ++ after, last)

/-- What a page consists of, for a browser. -/
def tokens (html : String) : List Token := (scan .text html.toList).1

variable {s t : List Char} {place next last : Place} {before after : List Token}

/-- **A page is read part by part.** -/
theorem scan_append (hs : scan place s = (before, next)) (ht : scan next t = (after, last)) :
    scan place (s ++ t) = (before ++ after, last) := by
  induction s generalizing place before with
  | nil =>
    obtain ⟨rfl, rfl⟩ := Prod.mk.inj hs
    exact ht
  | cons c s ih =>
    rcases hstep : step place c with ⟨here, mid⟩
    rcases hscan : scan mid s with ⟨there, next'⟩
    simp only [scan, hstep, hscan] at hs
    obtain ⟨rfl, rfl⟩ := Prod.mk.inj hs
    simp only [List.cons_append, scan, hstep, ih hscan, List.append_assoc]

/-- What stands for a character in a page is read as the character, where text stands. -/
theorem scan_escapeMarkup_text (c : Char) : scan .text (escapeMarkup c) = ([.char c], .text) := by
  rw [escapeMarkup]
  split_ifs with hamp hlt hgt hquote hapostrophe
  · rw [hamp]; rfl
  · rw [hlt]; rfl
  · rw [hgt]; rfl
  · rw [hquote]; rfl
  · rw [hapostrophe]; rfl
  · simp [scan, step]

/-- What stands for a character in a page is read as the character, within quotes. -/
theorem scan_escapeMarkup_value (words : List Word) (key value : List Char) (c : Char) :
    scan (.value words key value) (escapeMarkup c) = ([], .value words key (value ++ [c])) := by
  rw [escapeMarkup]
  split_ifs with hamp hlt hgt hquote hapostrophe
  · rw [hamp]; rfl
  · rw [hlt]; rfl
  · rw [hgt]; rfl
  · rw [hquote]; rfl
  · rw [hapostrophe]; rfl
  · simp [scan, step]

/-- **An escaped text is read as the text.** -/
theorem scan_text (s : List Char) :
    scan .text (s.flatMap escapeMarkup) = (s.map .char, .text) := by
  induction s with
  | nil => rfl
  | cons c s ih => exact scan_append (scan_escapeMarkup_text c) ih

/-- **An escaped text within quotes is the value.** -/
theorem scan_value (words : List Word) (key value s : List Char) :
    scan (.value words key value) (s.flatMap escapeMarkup)
      = ([], .value words key (value ++ s)) := by
  induction s generalizing value with
  | nil => rw [List.append_nil]; rfl
  | cons c s ih =>
    have hrest := ih (value ++ [c])
    rw [List.append_assoc, List.singleton_append] at hrest
    exact scan_append (scan_escapeMarkup_value words key value c) hrest

end StationFinder.Html
