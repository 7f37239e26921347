import StationFinder.Json.Reader
import Mathlib.Tactic.SplitIfs

/-!
# Proofs/Json/Readback — what was written is read back

`Json.write` puts escapes, commas and colons where the reader looks for them.  A reader that takes
the text of every item for the item takes the text of the array for the list (`reads_items`), and
likewise for the members of an object (`reads_members`); so the text of a value is read as that
value, level by level (`readAny_array`, `readAny_object`), and a whole text by `decode_text`.  Each
level spends one of the brackets that may still be opened.
-/

namespace StationFinder.Json

variable {α σ : Type} {c d e : Char} {s t u rest cs : List Char}

/-- A reader takes a value from the front of a text and leaves the rest. -/
def Leaves (reader : Reader α) (s : List Char) (a : α) (rest : List Char) : Prop :=
  ∃ h, reader s = .ok ⟨a, rest, h⟩

/-- A reader takes a value from every text that begins with the given one, and leaves the rest. -/
def Reads (reader : Reader α) (front : List Char) (a : α) : Prop :=
  ∀ rest, Leaves reader (front ++ rest) a rest

/-! ## Words and strings -/

theorem next?_cons (h : isSpace c = false) (s : List Char) :
    next? (c :: s) = some ⟨c, s, Nat.lt_succ_self _⟩ := by
  rw [next?, if_neg (by simp [h])]

theorem reads_word (w : Char) (ws : List Char) : Reads (word (w :: ws)) (w :: ws) () := by
  intro rest
  induction ws generalizing w with
  | nil =>
    show Leaves (word [w]) (w :: rest) () rest
    exact ⟨Nat.lt_succ_self _, by rw [word, if_pos rfl]⟩
  | cons v ws ih =>
    obtain ⟨hlt, heq⟩ := ih v
    show Leaves (word (w :: v :: ws)) (w :: (v :: ws ++ rest)) () rest
    refine ⟨Nat.lt_succ_of_lt hlt, ?_⟩
    rw [word, if_pos rfl, heq]
    rfl

theorem hexDigit?_hexDigitChar {n : Nat} (h : n < 16) :
    Text.Numeral.hexDigit? (Text.Numeral.hexDigitChar n) = some n := by
  revert n
  decide

theorem characters_quote (s : List Char) : Leaves characters ('"' :: s) [] s :=
  ⟨Nat.lt_succ_self _, by rw [characters, if_pos rfl]⟩

/-- A character that needs no escape stands for itself. -/
theorem characters_plain (hquote : c ≠ '"') (hslash : c ≠ '\\') (hctrl : ¬ c.toNat < 0x20)
    (h : Leaves characters s cs rest) : Leaves characters (c :: s) (c :: cs) rest := by
  obtain ⟨hlt, heq⟩ := h
  refine ⟨Nat.lt_succ_of_lt hlt, ?_⟩
  rw [characters, if_neg hquote, if_neg hslash, if_neg hctrl, heq]
  rfl

theorem characters_escaped (hd : Leaves escaped s d t) (h : Leaves characters t cs rest) :
    Leaves characters ('\\' :: s) (d :: cs) rest := by
  obtain ⟨hlt, heq⟩ := h
  obtain ⟨hlt', heq'⟩ := hd
  refine ⟨by simp only [List.length_cons]; omega, ?_⟩
  rw [characters, if_neg (by decide), if_pos rfl, heq']
  simp only [bind, Except.bind, heq]
  rfl

theorem escaped_letter (hu : e ≠ 'u') (h : unescape? e = some d) (s : List Char) :
    Leaves escaped (e :: s) d s :=
  ⟨Nat.lt_succ_self _, by rw [escaped, if_neg hu, h]⟩

/-- A character below the space is escaped by its code. -/
theorem escaped_control (h : c.toNat < 0x20) (s : List Char) :
    Leaves escaped ('u' :: '0' :: '0' :: Text.Numeral.hexDigitChar (c.toNat / 16)
      :: Text.Numeral.hexDigitChar (c.toNat % 16) :: s) c s := by
  have hfour : hexFour? '0' '0' (Text.Numeral.hexDigitChar (c.toNat / 16))
      (Text.Numeral.hexDigitChar (c.toNat % 16)) = some c.toNat := by
    have hzero : Text.Numeral.hexDigit? '0' = some 0 := by decide
    rw [hexFour?, hzero, hexDigit?_hexDigitChar (by omega), hexDigit?_hexDigitChar (by omega)]
    simp only [bind, Option.bind, pure]
    congr 1
    omega
  have hfirst : isFirstHalf c.toNat = false := by
    rw [isFirstHalf, Bool.and_eq_false_iff]
    exact .inl (by simp; omega)
  have hsecond : isSecondHalf c.toNat = false := by
    rw [isSecondHalf, Bool.and_eq_false_iff]
    exact .inl (by simp; omega)
  refine ⟨by simp only [List.length_cons]; omega, ?_⟩
  rw [escaped, if_pos rfl]
  simp only [unicodeEscape, hexFour, hfour, bind, Except.bind, hfirst, hsecond]
  simp [pure, Except.pure, Except.map, Scan.within, Scan.map]

/-- **An escape stands for the character that it was written for.** -/
theorem characters_escape (c : Char) (h : Leaves characters s cs rest) :
    Leaves characters (escape c ++ s) (c :: cs) rest := by
  have letter {e : Char} (hu : e ≠ 'u') (he : unescape? e = some c) :
      Leaves characters ('\\' :: e :: s) (c :: cs) rest :=
    characters_escaped (escaped_letter hu he s) h
  rw [escape]
  split_ifs with hquote hslash hb hf hn hr ht hctrl
  · subst hquote; exact letter (by decide) rfl
  · subst hslash; exact letter (by decide) rfl
  · subst hb; exact letter (by decide) rfl
  · subst hf; exact letter (by decide) rfl
  · subst hn; exact letter (by decide) rfl
  · subst hr; exact letter (by decide) rfl
  · subst ht; exact letter (by decide) rfl
  · exact characters_escaped (escaped_control hctrl s) h
  · exact characters_plain hquote hslash hctrl h

theorem reads_characters (cs : List Char) : Reads characters (cs.flatMap escape ++ ['"']) cs := by
  intro rest
  induction cs with
  | nil => exact characters_quote rest
  | cons c cs ih =>
    rw [List.flatMap_cons, List.append_assoc, List.append_assoc, ← List.append_assoc _ ['"'] rest]
    exact characters_escape c ih

theorem reads_stringTail (text : String) :
    Reads stringTail (text.toList.flatMap escape ++ ['"']) text := by
  intro rest
  obtain ⟨hlt, heq⟩ := reads_characters text.toList rest
  refine ⟨hlt, ?_⟩
  simp only [stringTail, heq, bind, Except.bind, pure, Except.pure, Scan.map, String.ofList_toList]

/-! ## What is read back -/

/-- A text begins like a value: with a character that is no blank and does not close an array. -/
def BeginsValue (s : List Char) : Prop := ∃ c t, s = c :: t ∧ isSpace c = false ∧ c ≠ ']'

/-- A value is over where the text is, or where a comma or a closing bracket stands.  The other
values show themselves where they end, a number does not. -/
def EndsValue (s : List Char) : Prop := ∀ c ∈ s.head?, c = ',' ∨ c = ']' ∨ c = '\x7d'

/-- A reader takes a value from every text that begins with the given one, in which the value is
over behind it, and leaves the rest. -/
def ReadsValue (reader : Reader α) (front : List Char) (a : α) : Prop :=
  ∀ rest, EndsValue rest → Leaves reader (front ++ rest) a rest

/-- A reader takes what was written of a value for what it stands for. -/
structure ReadsBack (reader : Reader α) (v : Json) (a : α) : Prop where
  reads : ReadsValue reader v.write a
  begins : BeginsValue v.write

theorem Reads.value {reader : Reader α} (h : Reads reader s a) : ReadsValue reader s a :=
  fun rest _ => h rest

theorem endsValue_nil : EndsValue [] := by simp [EndsValue]

/-! ## Arrays -/

/-- The items of an array behind the first one, with the commas in front of them. -/
def writeItemsTail : List Json → List Char
  | [] => [']']
  | v :: vs => ',' :: writeItems (v :: vs)

theorem endsValue_itemsTail (vs : List Json) (s : List Char) :
    EndsValue (writeItemsTail vs ++ s) := by
  cases vs <;> simp [EndsValue, writeItemsTail]

theorem writeItems_cons (v : Json) (vs : List Json) :
    writeItems (v :: vs) = v.write ++ writeItemsTail vs := by
  cases vs with
  | nil => rfl
  | cons w vs => rfl

theorem items_close (item : Reader α) (first : Bool) (s : List Char) :
    Leaves (items item first) (']' :: s) [] s := by
  refine ⟨Nat.lt_succ_self _, ?_⟩
  rw [items, itemTurn, next?_cons (by decide)]
  rfl

theorem items_more {item : Reader α} {first : Bool} {a : α} {as : List α}
    (hturn : ∃ h, itemTurn first s = .ok (.more t h)) (ha : Leaves item t a u)
    (has : Leaves (items item false) u as rest) : Leaves (items item first) s (a :: as) rest := by
  obtain ⟨hle, hturn⟩ := hturn
  obtain ⟨hlt, ha⟩ := ha
  obtain ⟨hlt', has⟩ := has
  refine ⟨by omega, ?_⟩
  rw [items, hturn]
  simp only [bind, Except.bind, ha, has]
  rfl

theorem itemTurn_first (hs : BeginsValue s) : ∃ h, itemTurn true s = .ok (.more s h) := by
  obtain ⟨c, t, rfl, hspace, hclose⟩ := hs
  exact ⟨Nat.le_refl _, by simp only [itemTurn, next?_cons hspace, if_neg hclose, if_true]⟩

theorem itemTurn_comma (hs : BeginsValue s) : ∃ h, itemTurn false (',' :: s) = .ok (.more s h) := by
  obtain ⟨c, t, rfl, hspace, hclose⟩ := hs
  refine ⟨Nat.le_succ _, ?_⟩
  have hcomma : isSpace ',' = false := by decide
  simp only [itemTurn, next?_cons hcomma, next?_cons hspace, if_neg hclose]
  rfl

theorem BeginsValue.append (hs : BeginsValue s) (t : List Char) : BeginsValue (s ++ t) := by
  obtain ⟨c, u, rfl, hc⟩ := hs
  exact ⟨c, u ++ t, rfl, hc⟩

theorem reads_itemsTail {item : Reader α} {json : α → Json} {as : List α}
    (h : ∀ a ∈ as, ReadsBack item (json a) a) :
    Reads (items item false) (writeItemsTail (as.map json)) as := by
  intro rest
  induction as with
  | nil => exact items_close item false rest
  | cons a as ih =>
    obtain ⟨ha, has⟩ := List.forall_mem_cons.mp h
    rw [List.map_cons, writeItemsTail, writeItems_cons, List.cons_append, List.append_assoc]
    exact items_more (itemTurn_comma (ha.begins.append _))
      (ha.reads _ (endsValue_itemsTail _ rest)) (ih has)

/-- **Items are read back**, if each of them is. -/
theorem reads_items {item : Reader α} {json : α → Json} {as : List α}
    (h : ∀ a ∈ as, ReadsBack item (json a) a) :
    Reads (items item true) (writeItems (as.map json)) as := by
  intro rest
  cases as with
  | nil => exact items_close item true rest
  | cons a as =>
    obtain ⟨ha, has⟩ := List.forall_mem_cons.mp h
    rw [List.map_cons, writeItems_cons, List.append_assoc]
    exact items_more (itemTurn_first (ha.begins.append _))
      (ha.reads _ (endsValue_itemsTail _ rest)) (reads_itemsTail has rest)

/-! ## Objects -/

/-- The members of an object behind the first one, with the commas in front of them. -/
def writeMembersTail : List (String × Json) → List Char
  | [] => ['\x7d']
  | m :: ms => ',' :: writeMembers (m :: ms)

theorem endsValue_membersTail (ms : List (String × Json)) (s : List Char) :
    EndsValue (writeMembersTail ms ++ s) := by
  cases ms <;> simp [EndsValue, writeMembersTail]

/-- A key behind its first quote, and what stands behind the key. -/
def writeKeyed (key : String) (s : List Char) : List Char :=
  key.toList.flatMap escape ++ ['"'] ++ ':' :: s

theorem writeMembers_cons (key : String) (v : Json) (ms : List (String × Json)) :
    writeMembers ((key, v) :: ms) = '"' :: writeKeyed key (v.write ++ writeMembersTail ms) := by
  cases ms <;> simp [writeMembers, writeString, writeKeyed, writeMembersTail]

theorem writeKeyed_append (key : String) (s t : List Char) :
    writeKeyed key s ++ t = writeKeyed key (s ++ t) := by
  simp [writeKeyed]

variable {field : σ → String → Except Problem (Reader σ)} {first : Bool} {known known' known'' : σ}

theorem members_close (first : Bool) (s : List Char) :
    Leaves (members field first known) ('\x7d' :: s) known s := by
  refine ⟨Nat.lt_succ_self _, ?_⟩
  rw [members, memberTurn, next?_cons (by decide)]
  rfl

theorem colon_cons (s : List Char) : Leaves colon (':' :: s) () s :=
  ⟨Nat.lt_succ_self _, by rw [colon, next?_cons (by decide)]; rfl⟩

theorem memberTurn_first (s : List Char) :
    ∃ h, memberTurn true ('"' :: s) = .ok (.more s h) :=
  ⟨Nat.le_succ _, by rw [memberTurn, next?_cons (by decide)]; rfl⟩

theorem memberTurn_comma (s : List Char) :
    ∃ h, memberTurn false (',' :: '"' :: s) = .ok (.more s h) := by
  have hquote : isSpace '"' = false := by decide
  have hcomma : isSpace ',' = false := by decide
  refine ⟨by simp only [List.length_cons]; omega, ?_⟩
  simp only [memberTurn, next?_cons hcomma, next?_cons hquote]
  rfl

theorem members_more {key : String} {value : Reader σ}
    (hturn : ∃ h, memberTurn first s = .ok (.more (writeKeyed key t) h))
    (hfield : field known key = .ok value) (hvalue : Leaves value t known' u)
    (hrest : Leaves (members field false known') u known'' rest) :
    Leaves (members field first known) s known'' rest := by
  obtain ⟨hle, hturn⟩ := hturn
  obtain ⟨hlt, hkey⟩ : Leaves stringTail (writeKeyed key t) key (':' :: t) :=
    reads_stringTail key (':' :: t)
  obtain ⟨hlt₁, hcolon⟩ := colon_cons t
  obtain ⟨hlt₂, hvalue⟩ := hvalue
  obtain ⟨hlt₃, hrest⟩ := hrest
  refine ⟨by omega, ?_⟩
  rw [members, hturn]
  simp only [bind, Except.bind, hkey, hfield, Except.mapError, hcolon, hvalue, hrest]
  rfl

/-- Members fill in what is known of an object, one after the other: each value is read from what
was written of it. -/
inductive Fills (field : σ → String → Except Problem (Reader σ)) :
    σ → List (String × Json) → σ → Prop
  | nil (known : σ) : Fills field known [] known
  | cons {known known' known'' : σ} {key : String} {v : Json} {ms : List (String × Json)}
      {value : Reader σ} (hfield : field known key = .ok value)
      (hvalue : ReadsValue value v.write known') (hrest : Fills field known' ms known'') :
      Fills field known ((key, v) :: ms) known''

variable {ms : List (String × Json)}

theorem reads_membersTail (h : Fills field known ms known') :
    Reads (members field false known) (writeMembersTail ms) known' := by
  induction h with
  | nil known => exact members_close false
  | cons hfield hvalue _ ih =>
    intro rest
    rw [writeMembersTail, writeMembers_cons, List.cons_append, List.cons_append,
      writeKeyed_append, List.append_assoc]
    exact members_more (memberTurn_comma _) hfield (hvalue _ (endsValue_membersTail _ rest))
      (ih rest)

/-- **Members are read back**, as what they fill in. -/
theorem reads_members (h : Fills field known ms known') :
    Reads (members field true known) (writeMembers ms) known' := by
  intro rest
  cases h with
  | nil => exact members_close true rest
  | cons hfield hvalue hrest =>
    rw [writeMembers_cons, List.cons_append, writeKeyed_append, List.append_assoc]
    exact members_more (memberTurn_first _) hfield (hvalue _ (endsValue_membersTail _ rest))
      (reads_membersTail hrest rest)

/-- Where every member is kept, they fill in themselves, the last one in front. -/
theorem fills_keepMember {value : Reader Json} (h : ∀ m ∈ ms, ReadsBack value m.2 m.2)
    (before : List (String × Json)) :
    Fills (keepMember value) before ms (ms.reverse ++ before) := by
  induction ms generalizing before with
  | nil => exact .nil before
  | cons m ms ih =>
    obtain ⟨hm, hms⟩ := List.forall_mem_cons.mp h
    rw [List.reverse_cons, List.append_assoc]
    refine .cons rfl (fun rest hends => ?_) (ih hms (m :: before))
    obtain ⟨hlt, heq⟩ := hm.reads rest hends
    exact ⟨hlt, by simp only [heq]; rfl⟩

theorem reads_keptMembers {value : Reader Json} (h : ∀ m ∈ ms, ReadsBack value m.2 m.2) :
    Reads (members (keepMember value) true []) (writeMembers ms) ms.reverse :=
  reads_members (List.append_nil ms.reverse ▸ fills_keepMember h [])

/-! ## Values -/

theorem readAny_null (depth : Nat) : ReadsBack (readAny depth) null null := by
  refine ⟨Reads.value fun rest => ?_, _, _, rfl, by decide, by decide⟩
  obtain ⟨hlt, heq⟩ := reads_word 'u' ['l', 'l'] rest
  show Leaves (readAny depth) ('n' :: (['u', 'l', 'l'] ++ rest)) null rest
  refine ⟨Nat.lt_succ_of_lt hlt, ?_⟩
  rw [readAny, next?_cons (by decide)]
  simp only [heq]
  rfl

theorem readAny_bool (depth : Nat) (b : Bool) : ReadsBack (readAny depth) (bool b) (bool b) := by
  cases b with
  | true =>
    refine ⟨Reads.value fun rest => ?_, _, _, rfl, by decide, by decide⟩
    obtain ⟨hlt, heq⟩ := reads_word 'r' ['u', 'e'] rest
    show Leaves (readAny depth) ('t' :: (['r', 'u', 'e'] ++ rest)) (bool true) rest
    refine ⟨Nat.lt_succ_of_lt hlt, ?_⟩
    rw [readAny, next?_cons (by decide)]
    simp only [heq]
    rfl
  | false =>
    refine ⟨Reads.value fun rest => ?_, _, _, rfl, by decide, by decide⟩
    obtain ⟨hlt, heq⟩ := reads_word 'a' ['l', 's', 'e'] rest
    show Leaves (readAny depth) ('f' :: (['a', 'l', 's', 'e'] ++ rest)) (bool false) rest
    refine ⟨Nat.lt_succ_of_lt hlt, ?_⟩
    rw [readAny, next?_cons (by decide)]
    simp only [heq]
    rfl

theorem readAny_string (depth : Nat) (text : String) :
    ReadsBack (readAny depth) (string text) (string text) := by
  refine ⟨Reads.value fun rest => ?_, _, _, rfl, by decide, by decide⟩
  obtain ⟨hlt, heq⟩ := reads_stringTail text rest
  show Leaves (readAny depth) ('"' :: (text.toList.flatMap escape ++ ['"'] ++ rest))
    (string text) rest
  refine ⟨Nat.lt_succ_of_lt hlt, ?_⟩
  rw [readAny, next?_cons (by decide)]
  simp only [heq]
  rfl

/-- An array is read back, if its items are read back with one bracket more around them. -/
theorem readAny_array {depth : Nat} {vs : List Json}
    (h : ∀ v ∈ vs, ReadsBack (readAny depth) v v) :
    ReadsBack (readAny (depth + 1)) (array vs) (array vs) := by
  have hid : ∀ v ∈ vs, ReadsBack (readAny depth) (id v) v := h
  have hitems : Reads (items (readAny depth) true) (writeItems vs) vs := by
    simpa only [List.map_id] using reads_items hid
  refine ⟨Reads.value fun rest => ?_, _, _, rfl, by decide, by decide⟩
  obtain ⟨hlt, heq⟩ := hitems rest
  show Leaves (readAny (depth + 1)) ('[' :: (writeItems vs ++ rest)) (array vs) rest
  refine ⟨Nat.lt_succ_of_lt hlt, ?_⟩
  rw [readAny, next?_cons (by decide)]
  simp only [heq]
  rfl

/-- An object is read back, if its values are read back with one bracket more around them. -/
theorem readAny_object {depth : Nat} {ms : List (String × Json)}
    (h : ∀ m ∈ ms, ReadsBack (readAny depth) m.2 m.2) :
    ReadsBack (readAny (depth + 1)) (object ms) (object ms) := by
  refine ⟨Reads.value fun rest => ?_, _, _, rfl, by decide, by decide⟩
  obtain ⟨hlt, heq⟩ := reads_keptMembers h rest
  show Leaves (readAny (depth + 1)) ('\x7b' :: (writeMembers ms ++ rest)) (object ms) rest
  refine ⟨Nat.lt_succ_of_lt hlt, ?_⟩
  rw [readAny, next?_cons (by decide)]
  simp only [heq]
  rw [Except.map, Scan.map, Scan.within, List.reverse_reverse]

/-- Nothing is left of a text that was written. -/
theorem ReadsBack.leaves_text {reader : Reader α} {v : Json} {a : α} (h : ReadsBack reader v a) :
    Leaves reader v.text.toList a [] := by
  rw [text, String.toList_ofList, ← List.append_nil v.write]
  exact h.reads [] endsValue_nil

/-- **A text that was written is read back.** -/
theorem decode_text {decoder : Decoder α} {v : Json} {a : α}
    (h : ReadsBack (decoder maxDepth) v a) : decode decoder v.text = .ok a := by
  obtain ⟨hlt, heq⟩ := h.leaves_text
  have hwhole : readWhole decoder v.text.toList = .ok a := by
    rw [readWhole, heq]
    rfl
  rw [decode, hwhole]
  rfl

end StationFinder.Json
