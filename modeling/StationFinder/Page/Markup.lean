/-!
# Page/Markup — pages as markup and text

A page is a list of pieces, each of them markup that the program wrote or a text that came from
elsewhere.  Only the texts are escaped when a page is written, so none of them can be taken for
markup.
-/

namespace StationFinder

/-- A character of a text as it stands in a page. -/
def escapeMarkup (c : Char) : List Char :=
  if c = '&' then ['&', 'a', 'm', 'p', ';']
  else if c = '<' then ['&', 'l', 't', ';']
  else if c = '>' then ['&', 'g', 't', ';']
  else if c = '"' then ['&', 'q', 'u', 'o', 't', ';']
  else if c = '\x27' then ['&', '#', 'x', '2', '7', ';']
  else [c]

/-- A piece of a page. -/
inductive Piece where
  /-- Stands as it is. -/
  | markup (s : String)
  /-- Stands escaped. -/
  | text (s : String)
deriving DecidableEq, Repr

/-- The characters of a piece. -/
def Piece.write : Piece → List Char
  | markup s => s.toList
  | text s => s.toList.flatMap escapeMarkup

/-- A page or a part of one. -/
abbrev Markup := List Piece

/-- The characters of a page. -/
def Markup.write (page : Markup) : List Char := page.flatMap Piece.write

/-- A page as a string. -/
def Markup.html (page : Markup) : String := String.ofList page.write

theorem Markup.write_nil : Markup.write [] = [] := rfl

theorem Markup.write_cons (piece : Piece) (p : Markup) :
    Markup.write (piece :: p) = piece.write ++ Markup.write p := List.flatMap_cons

@[simp] theorem Markup.write_append (p q : Markup) : Markup.write (p ++ q) = p.write ++ q.write :=
  List.flatMap_append

end StationFinder
