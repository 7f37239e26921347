/-!
# Text/Utf8 — characters as bytes, and bytes as characters

Bytes are read one character at a time.  A lead byte says which bytes may follow it (`followers`);
where one of them is missing or out of its range, the bytes up to there are one malformed piece.
`decode?` refuses a malformed piece, `decodeLossy` puts U+FFFD in its place.
-/

namespace StationFinder.Text.Utf8

/-- The bytes that stand for a text. -/
def encode (s : List Char) : List UInt8 := s.flatMap String.utf8EncodeChar

/-- The number of bytes that stand for a text. -/
def byteLength : List Char → Nat
  | [] => 0
  | c :: s => c.utf8Size + byteLength s

theorem length_le_byteLength (s : List Char) : s.length ≤ byteLength s := by
  induction s with
  | nil => exact Nat.le_refl 0
  | cons c s ih =>
    have hc := c.utf8Size_pos
    simp only [byteLength, List.length_cons]
    omega

/-- What a lead byte announces: the bits it contributes and the range of each byte after it. -/
def followers (b : Nat) : Option (Nat × List (Nat × Nat)) :=
  if b < 0x80 then some (b, [])
  else if b < 0xC2 then none
  else if b < 0xE0 then some (b - 0xC0, [(0x80, 0xBF)])
  else if b < 0xF0 then
    let second := if b = 0xE0 then (0xA0, 0xBF) else if b = 0xED then (0x80, 0x9F) else (0x80, 0xBF)
    some (b - 0xE0, [second, (0x80, 0xBF)])
  else if b < 0xF5 then
    let second := if b = 0xF0 then (0x90, 0xBF) else if b = 0xF4 then (0x80, 0x8F) else (0x80, 0xBF)
    some (b - 0xF0, [second, (0x80, 0xBF), (0x80, 0xBF)])
  else none

/-- Takes the bytes that the ranges ask for and appends six bits of each to `bits`; no character
comes of it when one of them is not there. -/
def follow (bits : Nat) : List (Nat × Nat) → List UInt8 → Option Char × List UInt8
  | [], rest => (some (Char.ofNat bits), rest)
  | _ :: _, [] => (none, [])
  | (lo, hi) :: more, b :: rest =>
    if lo ≤ b.toNat ∧ b.toNat ≤ hi then follow (64 * bits + (b.toNat - 0x80)) more rest
    else (none, b :: rest)

theorem length_follow (bits : Nat) (ranges : List (Nat × Nat)) (bs : List UInt8) :
    (follow bits ranges bs).2.length ≤ bs.length := by
  fun_induction follow bits ranges bs <;> simp_all
  omega

/-- The first character of a nonempty run of bytes, `none` for a malformed piece, and the rest. -/
def step (b : UInt8) (rest : List UInt8) : Option Char × List UInt8 :=
  match followers b.toNat with
  | none => (none, rest)
  | some (bits, ranges) => follow bits ranges rest

theorem length_step (b : UInt8) (rest : List UInt8) : (step b rest).2.length ≤ rest.length := by
  rw [step]
  split
  · exact Nat.le_refl _
  · exact length_follow ..

/-- The characters that the bytes stand for, with `none` for each malformed piece. -/
def pieces : List UInt8 → List (Option Char)
  | [] => []
  | b :: rest => (step b rest).1 :: pieces (step b rest).2
termination_by bs => bs.length
decreasing_by have := length_step b rest; simp only [List.length_cons]; omega

/-- The text that the bytes stand for, if they are well formed. -/
def decode? (bs : List UInt8) : Option (List Char) := (pieces bs).mapM id

/-- The text that the bytes stand for, with U+FFFD for each malformed piece. -/
def decodeLossy (bs : List UInt8) : List Char := (pieces bs).map (·.getD '\uFFFD')

end StationFinder.Text.Utf8
