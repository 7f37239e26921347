import StationFinder.Text.Numeral
import StationFinder.Text.Printable

/-!
# Text/Quoted — a text shown in a message

A text that a message shows stands between quotes.  Quotes and backslashes in it are escaped, hidden
characters are given by name: a letter for the common ones, otherwise the code point.
-/

namespace StationFinder.Text.Quoted

/-- A character as it is shown between quotes. -/
def shown (c : Char) : List Char :=
  if c = '\x00' then ['\\', '0']
  else if c = '\t' then ['\\', 't']
  else if c = '\n' then ['\\', 'n']
  else if c = '\r' then ['\\', 'r']
  else if c = '\\' ∨ c = '"' then ['\\', c]
  else if isHidden c then ['\\', 'u', '\x7b'] ++ Numeral.writeHex c.toNat ++ ['\x7d']
  else [c]

/-- A text between quotes. -/
def quoted (s : String) : String := String.ofList ('"' :: s.toList.flatMap shown ++ ['"'])

end StationFinder.Text.Quoted
