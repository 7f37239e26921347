import StationFinder.Json.Structure
import StationFinder.Proofs.Json.Readback

/-!
# Proofs/Json/Structures — values of a wanted type are read back

A reader that wants a string, a list or a structure takes what was written of one for the value it
was written of.  A structure is read back if its members fill in all of its fields
(`readsBack_structure`); for a structure of two fields it is enough that each of them is read back
(`readsBack_pairOf`).
-/

namespace StationFinder.Json

variable {α β γ σ : Type} {depth : Nat}

/-- What is made of a value that is read back is read back as well. -/
theorem ReadsBack.map {reader : Reader α} {v : Json} {a : α} (h : ReadsBack reader v a)
    (f : α → β) : ReadsBack (fun s => (reader s).map (·.map f)) v (f a) := by
  refine ⟨fun rest hends => ?_, h.begins⟩
  obtain ⟨hlt, heq⟩ := h.reads rest hends
  exact ⟨hlt, congrArg (Except.map (Scan.map f)) heq⟩

/-! ## Strings, lists and members -/

theorem readString_string (text : String) : ReadsBack readString (string text) text := by
  refine ⟨Reads.value fun rest => ?_, _, _, rfl, by decide, by decide⟩
  obtain ⟨hlt, heq⟩ := reads_stringTail text rest
  show Leaves readString ('"' :: (text.toList.flatMap escape ++ ['"'] ++ rest)) text rest
  refine ⟨Nat.lt_succ_of_lt hlt, ?_⟩
  rw [readString, next?_cons (by decide)]
  simp only [heq]
  rfl

/-- A text that may be missing is read back, be it there or not. -/
theorem readString?_ofText? (value : Option String) :
    ReadsBack readString? (ofText? value) value := by
  cases value with
  | none =>
    refine ⟨Reads.value fun rest => ?_, _, _, rfl, by decide, by decide⟩
    obtain ⟨hlt, heq⟩ := reads_word 'u' ['l', 'l'] rest
    show Leaves readString? ('n' :: (['u', 'l', 'l'] ++ rest)) none rest
    refine ⟨Nat.lt_succ_of_lt hlt, ?_⟩
    rw [readString?, next?_cons (by decide)]
    simp only [heq]
    rfl
  | some text =>
    obtain ⟨hreads, hbegins⟩ := readString_string text
    refine ⟨fun rest hends => ?_, hbegins⟩
    obtain ⟨hlt, heq⟩ := hreads rest hends
    refine ⟨hlt, ?_⟩
    show readString? ('"' :: _) = _
    rw [readString?, next?_cons (by decide)]
    exact congrArg (Except.map (Scan.map some)) heq

theorem readList_array {item : Decoder α} {json : α → Json} {as : List α}
    (h : ∀ a ∈ as, ReadsBack (item depth) (json a) a) :
    ReadsBack (readList item (depth + 1)) (array (as.map json)) as := by
  refine ⟨Reads.value fun rest => ?_, _, _, rfl, by decide, by decide⟩
  obtain ⟨hlt, heq⟩ := reads_items h rest
  show Leaves (readList item (depth + 1)) ('[' :: (writeItems (as.map json) ++ rest)) as rest
  refine ⟨Nat.lt_succ_of_lt hlt, ?_⟩
  rw [readList, next?_cons (by decide)]
  simp only [heq]
  rfl

theorem readMembers_object {ms : List (String × Json)}
    (h : ∀ m ∈ ms, ReadsBack (readAny depth) m.2 m.2) :
    ReadsBack (readMembers (depth + 1)) (object ms) ms := by
  refine ⟨Reads.value fun rest => ?_, _, _, rfl, by decide, by decide⟩
  obtain ⟨hlt, heq⟩ := reads_keptMembers h rest
  show Leaves (readMembers (depth + 1)) ('\x7b' :: (writeMembers ms ++ rest)) ms rest
  refine ⟨Nat.lt_succ_of_lt hlt, ?_⟩
  rw [readMembers, next?_cons (by decide)]
  simp only [heq]
  rw [Except.map, Scan.map, Scan.within, List.reverse_reverse]
  rfl

/-! ## Structures -/

/-- A member whose field is kept in one place, and is not known yet, fills in that place. -/
theorem Fills.place {fields : List (Field σ)} {key : String} {get : σ → Option α}
    {set : σ → α → σ} {value : Decoder α} {optional : Bool} {v : Json} {a : α} {known known' : σ}
    {ms : List (String × Json)}
    (hfind : fields.find? (·.name = key) = some (.place key get set value optional))
    (hknown : get known = none) (hvalue : ReadsValue (value depth) v.write a)
    (hrest : Fills (fieldNamed fields depth) (set known a) ms known') :
    Fills (fieldNamed fields depth) known ((key, v) :: ms) known' := by
  have hfield : fieldNamed fields depth known key
      = .ok ((Field.place key get set value optional).read known depth) := by
    simp only [fieldNamed, hfind, Field.place, hknown]
    rfl
  refine .cons hfield (fun rest hends => ?_) hrest
  obtain ⟨hlt, heq⟩ := hvalue rest hends
  exact ⟨hlt, congrArg (Except.map (Scan.map (set known))) heq⟩

/-- Two members fill in the two fields that there are. -/
theorem fills_two {first second : String} {get : σ → Option α} {set : σ → α → σ}
    {get' : σ → Option β} {set' : σ → β → σ} {value : Decoder α} {value' : Decoder β}
    {optional optional' : Bool} {v w : Json} {a : α} {b : β} {known : σ} (hne : first ≠ second)
    (hknown : get known = none) (hknown' : get' (set known a) = none)
    (hfirst : ReadsValue (value depth) v.write a)
    (hsecond : ReadsValue (value' depth) w.write b) :
    Fills
      (fieldNamed [.place first get set value optional,
        .place second get' set' value' optional'] depth)
      known [(first, v), (second, w)] (set' (set known a) b) := by
  refine .place (List.find?_cons_of_pos (decide_eq_true rfl)) hknown hfirst ?_
  have hfind : [Field.place first get set value optional,
      .place second get' set' value' optional'].find? (·.name = second)
        = some (.place second get' set' value' optional') := by
    rw [List.find?_cons_of_neg (by simp [Field.place, hne])]
    exact List.find?_cons_of_pos (decide_eq_true rfl)
  exact .place hfind hknown' hsecond (.nil _)

/-- **A structure is read back**, if its members fill in what it is made of. -/
theorem readsBack_structure {shape : Shape σ α} {ms : List (String × Json)} {known : σ} {a : α}
    (hfills : Fills (fieldNamed shape.fields depth) shape.blank ms known)
    (hfinish : shape.finish known = .ok a) :
    ReadsBack (shape.decoder (depth + 1)) (object ms) a := by
  refine ⟨Reads.value fun rest => ?_, _, _, rfl, by decide, by decide⟩
  obtain ⟨hlt, heq⟩ := reads_members hfills rest
  show Leaves (shape.decoder (depth + 1)) ('\x7b' :: (writeMembers ms ++ rest)) a rest
  refine ⟨Nat.lt_succ_of_lt hlt, ?_⟩
  rw [Shape.decoder, next?_cons (by decide)]
  simp only [heq, bind, Except.bind, Except.mapError, hfinish]
  rfl

/-- **A structure of two fields is read back**, if each of them is. -/
theorem readsBack_pairOf {name first second : String} {readFirst : Decoder α}
    {readSecond : Decoder β} {make : α → β → γ} {v w : Json} {a : α} {b : β}
    (hne : first ≠ second) (hfirst : ReadsBack (readFirst depth) v a)
    (hsecond : ReadsBack (readSecond depth) w b) :
    ReadsBack ((pairOf name first second readFirst readSecond make).decoder (depth + 1))
      (object [(first, v), (second, w)]) (make a b) := by
  have hfinish : (pairOf name first second readFirst readSecond make).finish (some a, some b)
      = .ok (make a b) := rfl
  exact readsBack_structure (fills_two hne rfl rfl hfirst.reads hsecond.reads) hfinish

end StationFinder.Json
