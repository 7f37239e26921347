/-!
# Text/Cut — taking a text apart at a separator

`cut?` divides at the first place where a separator stands; `cutAt?` is the case of a single
character.  Texts that fall into many pieces are divided by `List.splitOn`.
-/

namespace StationFinder.Text

/-- What stands before and after the first occurrence of a separator, or `none` if it has none. -/
def cut? (sep : List Char) : List Char → Option (List Char × List Char)
  | [] => if sep = [] then some ([], []) else none
  | c :: s =>
    if sep.isPrefixOf (c :: s) then some ([], (c :: s).drop sep.length)
    else (cut? sep s).map fun (before, after) => (c :: before, after)

/-- Whether a text occurs within another. -/
def contains (part whole : List Char) : Bool := (cut? part whole).isSome

/-- What stands before and after the first occurrence of a character. -/
def cutAt? (sep : Char) (s : List Char) : Option (List Char × List Char) :=
  match s.dropWhile (· ≠ sep) with
  | [] => none
  | _ :: after => some (s.takeWhile (· ≠ sep), after)

/-- Equality up to the case of the ASCII letters. -/
def sameLetters (s t : List Char) : Bool := s.map Char.toLower == t.map Char.toLower

/-- A text without the given character at its end, however often it is repeated there. -/
def dropTrailing (c : Char) (s : List Char) : List Char := (s.reverse.dropWhile (· = c)).reverse

/-- The two parts are the text, with the separator put back between them. -/
theorem append_of_cut? {sep s before after : List Char} (h : cut? sep s = some (before, after)) :
    before ++ sep ++ after = s := by
  induction s generalizing before with
  | nil =>
    simp only [cut?] at h
    split at h
    · next hs => cases h; simp [hs]
    · cases h
  | cons c s ih =>
    simp only [cut?] at h
    split at h
    · next hp =>
      cases h
      simpa using List.prefix_iff_eq_append.mp (List.isPrefixOf_iff_prefix.mp hp)
    · obtain ⟨⟨b, a⟩, hb, heq⟩ := Option.map_eq_some_iff.mp h
      cases heq
      simpa using ih hb

end StationFinder.Text
