import StationFinder.Text.Utf8

/-!
# Proofs/Text/Utf8 — a text is read back from its bytes

The bytes of a character are a lead byte and what it announces, so they are read as the character
whatever stands behind them (`step_utf8EncodeChar`).  Hence the bytes of a text are read character
by character, and no piece of them is malformed.
-/

namespace StationFinder.Text.Utf8

variable {v : Nat} {rest : List UInt8}

theorem toNat_ofNat_of_lt {n : Nat} (h : n < 256) : (UInt8.ofNat n).toNat = n := by
  rw [UInt8.toNat_ofNat', Nat.mod_eq_of_lt h]

/-- A byte from the range that is asked for is taken. -/
theorem follow_cons {lo hi bits n : Nat} {more : List (Nat × Nat)} (hlo : lo ≤ n) (hhi : n ≤ hi)
    (hn : n < 256) : follow bits ((lo, hi) :: more) (UInt8.ofNat n :: rest)
      = follow (64 * bits + (n - 0x80)) more rest := by
  rw [follow, toNat_ofNat_of_lt hn, if_pos ⟨hlo, hhi⟩]

theorem follow_nil {bits : Nat} (h : bits = v) :
    follow bits [] rest = (some (Char.ofNat v), rest) := by
  rw [follow, h]

theorem step_one (h : v < 0x80) : step (UInt8.ofNat v) rest = (some (Char.ofNat v), rest) := by
  rw [step, toNat_ofNat_of_lt (by omega), followers, if_pos h]
  exact follow_nil rfl

theorem step_two (hlo : 0x80 ≤ v) (hhi : v < 0x800) :
    step (UInt8.ofNat (v / 64 % 32 + 0xC0)) (UInt8.ofNat (v % 64 + 0x80) :: rest)
      = (some (Char.ofNat v), rest) := by
  rw [step, toNat_ofNat_of_lt (by omega), followers, if_neg (by omega), if_neg (by omega),
    if_pos (by omega)]
  simp only
  rw [follow_cons (by omega) (by omega) (by omega)]
  exact follow_nil (by omega)

theorem step_three (hlo : 0x800 ≤ v) (hhi : v < 0x10000) (hvalid : v < 0xD800 ∨ 0xDFFF < v) :
    step (UInt8.ofNat (v / 4096 % 16 + 0xE0))
        (UInt8.ofNat (v / 64 % 64 + 0x80) :: UInt8.ofNat (v % 64 + 0x80) :: rest)
      = (some (Char.ofNat v), rest) := by
  have hlast {bits : Nat} (hbits : bits = v / 64) :
      follow bits [(0x80, 0xBF)] (UInt8.ofNat (v % 64 + 0x80) :: rest)
        = (some (Char.ofNat v), rest) := by
    rw [follow_cons (by omega) (by omega) (by omega)]
    exact follow_nil (by omega)
  rw [step, toNat_ofNat_of_lt (by omega), followers, if_neg (by omega), if_neg (by omega),
    if_neg (by omega), if_pos (by omega)]
  simp only
  -- the lead byte narrows the range of the second byte where the code would be too long, or where
  -- it would be one that no character has
  split
  · rw [follow_cons (by omega) (by omega) (by omega), hlast (by omega)]
  split
  · rw [follow_cons (by omega) (by omega) (by omega), hlast (by omega)]
  · rw [follow_cons (by omega) (by omega) (by omega), hlast (by omega)]

theorem step_four (hlo : 0x10000 ≤ v) (hhi : v < 0x110000) :
    step (UInt8.ofNat (v / 262144 % 8 + 0xF0))
        (UInt8.ofNat (v / 4096 % 64 + 0x80) :: UInt8.ofNat (v / 64 % 64 + 0x80)
          :: UInt8.ofNat (v % 64 + 0x80) :: rest)
      = (some (Char.ofNat v), rest) := by
  have hlast {bits : Nat} (hbits : bits = v / 4096) :
      follow bits [(0x80, 0xBF), (0x80, 0xBF)]
          (UInt8.ofNat (v / 64 % 64 + 0x80) :: UInt8.ofNat (v % 64 + 0x80) :: rest)
        = (some (Char.ofNat v), rest) := by
    rw [follow_cons (by omega) (by omega) (by omega), follow_cons (by omega) (by omega) (by omega)]
    exact follow_nil (by omega)
  rw [step, toNat_ofNat_of_lt (by omega), followers, if_neg (by omega), if_neg (by omega),
    if_neg (by omega), if_neg (by omega), if_pos (by omega)]
  simp only
  split
  · rw [follow_cons (by omega) (by omega) (by omega), hlast (by omega)]
  split
  · rw [follow_cons (by omega) (by omega) (by omega), hlast (by omega)]
  · rw [follow_cons (by omega) (by omega) (by omega), hlast (by omega)]

theorem encode_append (s s' : List Char) : encode (s ++ s') = encode s ++ encode s' :=
  List.flatMap_append

/-- **The bytes of a character are read as the character**, whatever stands behind them. -/
theorem step_utf8EncodeChar (c : Char) (rest : List UInt8) : ∃ b bs,
    String.utf8EncodeChar c = b :: bs ∧ step b (bs ++ rest) = (some c, rest) := by
  have hvalid : c.toNat < 0xD800 ∨ 0xDFFF < c.toNat ∧ c.toNat < 0x110000 := c.valid
  have hval : c.val.toNat = c.toNat := rfl
  conv => enter [1, b, 1, bs, 2]; rw [← Char.ofNat_toNat c]
  simp only [String.utf8EncodeChar, hval]
  split
  · next h => exact ⟨_, _, rfl, step_one (by omega)⟩
  split
  · next h => exact ⟨_, _, rfl, step_two (by omega) (by omega)⟩
  split
  · next h => exact ⟨_, _, rfl, step_three (by omega) (by omega) (by omega)⟩
  · next h => exact ⟨_, _, rfl, step_four (by omega) (by omega)⟩

/-- The bytes of a text are read character by character. -/
theorem pieces_encode (s : List Char) : pieces (encode s) = s.map some := by
  induction s with
  | nil => rw [encode, List.flatMap_nil, pieces, List.map_nil]
  | cons c s ih =>
    obtain ⟨b, bs, hbytes, hstep⟩ := step_utf8EncodeChar c (encode s)
    have hencode : encode (c :: s) = b :: (bs ++ encode s) := by
      rw [encode, List.flatMap_cons, hbytes, List.cons_append, ← encode]
    rw [hencode, pieces, hstep, ih, List.map_cons]

/-- **A text is read back from its bytes.** -/
theorem decode?_encode (s : List Char) : decode? (encode s) = some s := by
  rw [decode?, pieces_encode]
  induction s with
  | nil => rfl
  | cons c s ih => rw [List.map_cons, List.mapM_cons, ih]; rfl

/-- Nothing of a text is replaced when it is read back from its bytes. -/
theorem decodeLossy_encode (s : List Char) : decodeLossy (encode s) = s := by
  rw [decodeLossy, pieces_encode, List.map_map]
  exact List.map_id s

/-- A text has as many bytes as its characters have together. -/
theorem length_encode (s : List Char) : (encode s).length = byteLength s := by
  induction s with
  | nil => rfl
  | cons c s ih =>
    rw [encode, List.flatMap_cons, List.length_append, String.length_utf8EncodeChar, byteLength,
      ← ih, encode]

theorem encode_eq_nil_iff {s : List Char} : encode s = [] ↔ s = [] := by
  refine ⟨fun h => ?_, fun h => h ▸ rfl⟩
  have hlen := length_le_byteLength s
  rw [← length_encode, h] at hlen
  exact List.length_eq_zero_iff.mp (Nat.le_zero.mp hlen)

/-- The lead byte of a character outside ASCII lies outside ASCII too. -/
theorem exists_lead {c : Char} (h : 0x80 ≤ c.toNat) :
    ∃ b bs, String.utf8EncodeChar c = b :: bs ∧ 0x80 ≤ b.toNat := by
  have hvalid : c.toNat < 0xD800 ∨ 0xDFFF < c.toNat ∧ c.toNat < 0x110000 := c.valid
  have hval : c.val.toNat = c.toNat := rfl
  simp only [String.utf8EncodeChar, hval]
  rw [if_neg (by omega)]
  split
  · exact ⟨_, _, rfl, by rw [toNat_ofNat_of_lt (by omega)]; omega⟩
  split
  · exact ⟨_, _, rfl, by rw [toNat_ofNat_of_lt (by omega)]; omega⟩
  · exact ⟨_, _, rfl, by rw [toNat_ofNat_of_lt (by omega)]; omega⟩

/-- An ASCII character is one byte. -/
theorem utf8EncodeChar_of_lt {c : Char} (h : c.toNat < 0x80) :
    String.utf8EncodeChar c = [UInt8.ofNat c.toNat] := by
  rw [String.utf8EncodeChar]
  exact if_pos (Nat.le_of_lt_succ h)

/-- The bytes of a text in ASCII are its characters. -/
theorem encode_of_ascii {s : List Char} (h : ∀ c ∈ s, c.toNat < 0x80) :
    encode s = s.map fun c => UInt8.ofNat c.toNat := by
  induction s with
  | nil => rfl
  | cons c s ih =>
    obtain ⟨hc, hs⟩ := List.forall_mem_cons.mp h
    rw [encode, List.flatMap_cons, utf8EncodeChar_of_lt hc, ← encode, ih hs]
    rfl

end StationFinder.Text.Utf8
