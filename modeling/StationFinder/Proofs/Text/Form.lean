import StationFinder.Proofs.Text.Utf8
import StationFinder.Text.Form

/-!
# Proofs/Text/Form — queries that are written by a visitor's program

What a form is filled in with is written as a query: letters, digits and four signs stand as they
are, a space is a `+`, and every other byte is a `%` with two hexadecimal digits.  None of the two
separators is left within a name or a value, so the query falls into the pairs it was made of, and
each of them is read back (`decode_write`).
-/

namespace StationFinder.Text

variable {b : UInt8} {rest : List UInt8}

/-- A byte other than `%` stands for itself. -/
theorem percentDecode_cons_of_ne (hb : b ≠ percentSign) :
    percentDecode (b :: rest) = b :: percentDecode rest := by
  match rest with
  | [] | [_] => rfl
  | x :: y :: rest => rw [percentDecode, if_neg hb]

/-- A text without `%` stands for itself. -/
theorem percentDecode_of_forall (h : ∀ b ∈ rest, b ≠ percentSign) : percentDecode rest = rest := by
  induction rest with
  | nil => rfl
  | cons b rest ih =>
    obtain ⟨hb, hrest⟩ := List.forall_mem_cons.mp h
    rw [percentDecode_cons_of_ne hb, ih hrest]

namespace Form

/-- Whether a byte stands in a query as it is. -/
def isPlain (b : UInt8) : Bool :=
  (0x30 ≤ b && b ≤ 0x39) || (0x41 ≤ b && b ≤ 0x5A) || (0x61 ≤ b && b ≤ 0x7A)
    || [0x2A, 0x2D, 0x2E, 0x5F].contains b

/-- The hexadecimal digit of a number below sixteen, in upper case. -/
def hexByte (n : Nat) : UInt8 := UInt8.ofNat (Numeral.hexDigitChar n).toUpper.toNat

/-- A byte as it is written in a query. -/
def writeByte (b : UInt8) : List UInt8 :=
  if isPlain b then [b]
  else if b = 0x20 then [0x2B]
  else [percentSign, hexByte (b.toNat / 16), hexByte (b.toNat % 16)]

/-- A name or a value as it is written in a query. -/
def writePart (s : String) : List UInt8 := (Utf8.encode s.toList).flatMap writeByte

/-- A name and a value as they are written in a query. -/
def writePair (pair : String × String) : List UInt8 :=
  writePart pair.1 ++ 0x3D :: writePart pair.2

/-- The query of some names and values. -/
def write (pairs : List (String × String)) : List UInt8 := [0x26].intercalate (pairs.map writePair)

/-- The query of some names and values, as it stands in an address. -/
def query (pairs : List (String × String)) : List Char :=
  (write pairs).map fun b => Char.ofNat b.toNat

/-- What a byte of a query stands for before hexadecimal digits are read. -/
def plusToSpace (b : UInt8) : UInt8 := if b = 0x2B then 0x20 else b

theorem forall_byte {p : UInt8 → Prop} (h : ∀ n < 256, p (UInt8.ofNat n)) (b : UInt8) : p b := by
  have hb := h b.toNat b.toNat_lt
  rwa [UInt8.ofNat_toNat] at hb

/-- What is written of a byte is ASCII, and none of the separators. -/
theorem of_mem_writeByte (b : UInt8) :
    ∀ x ∈ writeByte b, x < 0x80 ∧ x ≠ 0x26 ∧ x ≠ 0x3D := by
  have hall : ∀ b, (writeByte b).all (fun x => x < 0x80 ∧ x ≠ 0x26 ∧ x ≠ 0x3D) = true :=
    forall_byte (by decide +kernel)
  exact fun x hx => of_decide_eq_true (List.all_eq_true.mp (hall b) x hx)

/-- A byte as `%` and two hexadecimal digits. -/
def escape (b : UInt8) : List UInt8 :=
  [percentSign, hexByte (b.toNat / 16), hexByte (b.toNat % 16)]

theorem hexByte?_hexByte : ∀ n < 16, hexByte? (hexByte n) = some n := by
  decide +kernel

/-- An escaped byte is read back, whatever stands behind it. -/
theorem percentDecode_escape (b : UInt8) (rest : List UInt8) :
    percentDecode (escape b ++ rest) = b :: percentDecode rest := by
  have hlt := b.toNat_lt
  have hhigh := hexByte?_hexByte (b.toNat / 16) (by omega)
  have hlow := hexByte?_hexByte (b.toNat % 16) (by omega)
  simp only [escape, List.cons_append, List.nil_append]
  rw [percentDecode, if_pos rfl, hhigh, hlow]
  simp only
  rw [Nat.div_add_mod, UInt8.ofNat_toNat]

/-- **A byte is read back**, whatever stands behind it. -/
theorem percentDecode_writeByte (b : UInt8) (rest : List UInt8) :
    percentDecode ((writeByte b).map plusToSpace ++ rest) = b :: percentDecode rest := by
  rw [writeByte]
  split
  · next hplain =>
    have hsigns : ∀ b, isPlain b = true → plusToSpace b = b ∧ b ≠ percentSign :=
      forall_byte (by decide +kernel)
    obtain ⟨hplus, hpercent⟩ := hsigns b hplain
    rw [List.map_singleton, hplus]
    exact percentDecode_cons_of_ne hpercent
  split
  · next hspace =>
    rw [hspace]
    exact percentDecode_cons_of_ne (by decide)
  · -- there is no plus sign in what is escaped
    have hplus : ∀ b, (escape b).map plusToSpace = escape b := forall_byte (by decide +kernel)
    exact hplus b ▸ percentDecode_escape b rest

theorem percentDecode_flatMap_escape (bs : List UInt8) :
    percentDecode (bs.flatMap escape) = bs := by
  induction bs with
  | nil => rfl
  | cons b bs ih => rw [List.flatMap_cons, percentDecode_escape, ih]

theorem of_mem_escape (b : UInt8) : ∀ x ∈ escape b, x < 0x80 ∧ x ≠ 0x2F := by
  have hall : ∀ b, (escape b).all (fun x => x < 0x80 ∧ x ≠ 0x2F) = true :=
    forall_byte (by decide +kernel)
  exact fun x hx => of_decide_eq_true (List.all_eq_true.mp (hall b) x hx)

theorem percentDecode_flatMap_writeByte (bs : List UInt8) :
    percentDecode ((bs.flatMap writeByte).map plusToSpace) = bs := by
  induction bs with
  | nil => rfl
  | cons b bs ih => rw [List.flatMap_cons, List.map_append, percentDecode_writeByte, ih]

/-- **A name or a value is read back.** -/
theorem decodePart_writePart (s : String) : decodePart (writePart s) = s := by
  show String.ofList (Utf8.decodeLossy (percentDecode ((writePart s).map plusToSpace))) = s
  rw [writePart, percentDecode_flatMap_writeByte, Utf8.decodeLossy_encode, String.ofList_toList]

/-- No separator stands in a name or a value, as it is written. -/
theorem of_mem_writePart {s : String} {x : UInt8} (hx : x ∈ writePart s) :
    x < 0x80 ∧ x ≠ 0x26 ∧ x ≠ 0x3D := by
  obtain ⟨b, -, hx⟩ := List.mem_flatMap.mp hx
  exact of_mem_writeByte b x hx

theorem of_mem_writePair {pair : String × String} {x : UInt8} (hx : x ∈ writePair pair) :
    x < 0x80 ∧ x ≠ 0x26 := by
  rcases List.mem_append.mp hx with hx | hx
  · exact ⟨(of_mem_writePart hx).1, (of_mem_writePart hx).2.1⟩
  rcases List.mem_cons.mp hx with rfl | hx
  · decide
  · exact ⟨(of_mem_writePart hx).1, (of_mem_writePart hx).2.1⟩

/-- **A pair is read back**: it is divided where its name ends. -/
theorem decodePair_writePair (pair : String × String) : decodePair (writePair pair) = pair := by
  have hname : ∀ x ∈ writePart pair.1, decide (x ≠ 0x3D) = true := fun x hx =>
    decide_eq_true (of_mem_writePart hx).2.2
  rw [decodePair, writePair, List.takeWhile_append_of_pos hname, List.dropWhile_append_of_pos hname,
    List.takeWhile_cons_of_neg (by decide), List.dropWhile_cons_of_neg (by decide),
    List.append_nil, List.drop_one, List.tail_cons, decodePart_writePart, decodePart_writePart]

/-- **Names and values are read back from their query.** -/
theorem decode_write (pairs : List (String × String)) : decode (write pairs) = pairs := by
  by_cases hpairs : pairs = []
  · rw [hpairs]
    rfl
  · have hsplit : (write pairs).splitOn 0x26 = pairs.map writePair := by
      refine List.splitOn_intercalate _ (fun part hpart hsep => ?_) (by simpa using hpairs)
      obtain ⟨pair, -, rfl⟩ := List.mem_map.mp hpart
      exact (of_mem_writePair hsep).2 rfl
    have hnonempty : (pairs.map writePair).filter (· ≠ []) = pairs.map writePair := by
      refine List.filter_eq_self.mpr fun part hpart => ?_
      obtain ⟨pair, -, rfl⟩ := List.mem_map.mp hpart
      simp [writePair]
    have hread : decodePair ∘ writePair = id := funext decodePair_writePair
    rw [decode, hsplit, hnonempty, List.map_map, hread, List.map_id]

/-- A text of plain bytes stands in a query as it is. -/
theorem writePart_of_plain {s : String} (h : ∀ b ∈ Utf8.encode s.toList, isPlain b = true) :
    writePart s = Utf8.encode s.toList := by
  rw [writePart]
  generalize Utf8.encode s.toList = bs at h
  induction bs with
  | nil => rfl
  | cons b bs ih =>
    obtain ⟨hb, hbs⟩ := List.forall_mem_cons.mp h
    rw [List.flatMap_cons, writeByte, if_pos hb, ih hbs]
    rfl

/-- The query is in ASCII. -/
theorem lt_of_mem_write {pairs : List (String × String)} {x : UInt8} (hx : x ∈ write pairs) :
    x < 0x80 := by
  induction pairs with
  | nil => cases hx
  | cons pair pairs ih =>
    cases pairs with
    | nil => exact (of_mem_writePair (by simpa [write] using hx)).1
    | cons next pairs =>
      rw [write, List.map_cons, List.map_cons, List.intercalate_cons_cons] at hx
      rcases List.mem_append.mp hx with hx | hx
      · rcases List.mem_append.mp hx with hx | hx
        · exact (of_mem_writePair hx).1
        · rw [List.mem_singleton.mp hx]
          decide
      · exact ih hx

/-- Bytes of ASCII as characters. -/
def chars (bs : List UInt8) : List Char := bs.map fun b => Char.ofNat b.toNat

/-- Characters of ASCII have the bytes that they were made of. -/
theorem encode_chars {bs : List UInt8} (h : ∀ b ∈ bs, b < 0x80) : Utf8.encode (chars bs) = bs := by
  have hascii : ∀ b : UInt8, b < 0x80 → (Char.ofNat b.toNat).toNat = b.toNat :=
    forall_byte (by decide +kernel)
  have hback (b : UInt8) (hb : b ∈ bs) : UInt8.ofNat (Char.ofNat b.toNat).toNat = b := by
    rw [hascii b (h b hb), UInt8.ofNat_toNat]
  have hchars : ∀ c ∈ chars bs, c.toNat < 0x80 := by
    refine List.forall_mem_map.mpr fun b hb => ?_
    rw [hascii b (h b hb)]
    exact h b hb
  rw [Utf8.encode_of_ascii hchars, chars, List.map_map]
  exact (List.map_congr_left hback).trans (List.map_id _)

/-- The bytes of a query are those it was written in. -/
theorem encode_query (pairs : List (String × String)) :
    Utf8.encode (query pairs) = write pairs :=
  encode_chars fun _ => lt_of_mem_write

/-- **A form is read back from the query in an address.** -/
theorem decode_query (pairs : List (String × String)) :
    decode (Utf8.encode (query pairs)) = pairs := by
  rw [encode_query, decode_write]

end Form

end StationFinder.Text
