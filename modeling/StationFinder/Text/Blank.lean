import StationFinder.Text.Range

/-!
# Text/Blank — white space, and text with the white space around it taken off

A character is *blank* when it has the Unicode property White_Space: 25 code points in ten ranges.
Everything a visitor, a configuration or a price list hands in is trimmed by this one rule.
-/

namespace StationFinder.Text

/-- The code points with the property White_Space, as closed ranges, ascending and apart. -/
def blankRanges : List (Nat × Nat) :=
  [(0x09, 0x0D), (0x20, 0x20), (0x85, 0x85), (0xA0, 0xA0), (0x1680, 0x1680), (0x2000, 0x200A),
   (0x2028, 0x2029), (0x202F, 0x202F), (0x205F, 0x205F), (0x3000, 0x3000)]

/-- Whether a character is white space. -/
def isBlank (c : Char) : Bool := inRanges blankRanges c.toNat

/-- The text from its first character that is not blank. -/
def trimStart (s : List Char) : List Char := s.dropWhile isBlank

/-- The text up to its last character that is not blank. -/
def trimEnd (s : List Char) : List Char := (s.reverse.dropWhile isBlank).reverse

/-- The text without the blanks at its two ends. -/
def trim (s : List Char) : List Char := trimEnd (trimStart s)

/-- A string without the blanks at its two ends. -/
def trimmed (s : String) : String := String.ofList (trim s.toList)

/-- The trimmed text, unless nothing but blanks is there. -/
def nonBlank (s : String) : Option String :=
  if trimmed s = "" then none else some (trimmed s)

end StationFinder.Text
