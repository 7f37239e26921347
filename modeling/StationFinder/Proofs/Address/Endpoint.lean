import StationFinder.Address.Endpoint
import StationFinder.Proofs.Text.Digits
import StationFinder.Proofs.Text.Padding
import Mathlib.Data.List.Basic

/-!
# Proofs/Address/Endpoint — an address is read back from its text

A number that is written in a base stands for itself (`Text.Numeral.IsPositional.spells`), and it
is read in front of whatever does not go on with a digit (`Endpoint.readNumber_append`): a byte, a
group, a zone and a port are cases of it.  Groups are read one after the other as long as nothing in
them could be taken for four bytes (`Endpoint.readGroups_cons`, `Endpoint.readGroups_spelled`).  The
zeros that are left out are a run of two groups or more, and there is one number of zeros that fills
the address up (`Endpoint.eq_around_zeros`).  So every address with its port is read back
(`Endpoint.parse?_text`).
-/

namespace StationFinder

namespace Text.Numeral

/-- Numbers are written in a base: the last digit is what remains of a division, and those in front
of it are the digits of the quotient. -/
structure IsPositional (radix : Nat) (digit? : Char → Option Nat) (digit : Nat → Char)
    (write : Nat → List Char) : Prop where
  one_lt : 1 < radix
  digit?_digit : ∀ d < radix, digit? (digit d) = some d
  write_eq : ∀ n, write n
    = if n < radix then [digit n] else write (n / radix) ++ [digit (n % radix)]

/-- Digits stand for a number in a base. -/
structure Spells (radix : Nat) (digit? : Char → Option Nat) (digits : List Char) (n : Nat) :
    Prop where
  ne_nil : digits ≠ []
  isSome : ∀ c ∈ digits, (digit? c).isSome = true
  value : digits.foldl (fun n c => radix * n + (digit? c).getD 0) 0 = n

/-- What is no digit does not stand among digits. -/
theorem Spells.not_mem {radix n : Nat} {digit? : Char → Option Nat} {digits : List Char} {c : Char}
    (h : Spells radix digit? digits n) (hc : digit? c = none) : c ∉ digits := by
  intro hmem
  have hsome := h.isSome c hmem
  rw [hc] at hsome
  cases hsome

theorem isPositional_write : IsPositional 10 digit? digitChar write where
  one_lt := by decide
  digit?_digit _ := digit?_digitChar
  write_eq n := by rw [write]

theorem isPositional_writeHex : IsPositional 16 hexDigit? hexDigitChar writeHex where
  one_lt := by decide
  digit?_digit := by decide
  write_eq n := by rw [writeHex]

namespace IsPositional

variable {radix : Nat} {digit? : Char → Option Nat} {digit : Nat → Char} {write : Nat → List Char}

/-- **What is written of a number stands for it.** -/
theorem spells (h : IsPositional radix digit? digit write) (n : Nat) :
    Spells radix digit? (write n) n := by
  induction n using Nat.strongRecOn with
  | ind n ih =>
    rw [h.write_eq]
    split
    · next hn =>
      have hdigit := h.digit?_digit n hn
      exact ⟨List.cons_ne_nil _ _, by simp [hdigit], by simp [hdigit]⟩
    · next hn =>
      have hpos : 0 < radix := Nat.lt_trans Nat.zero_lt_one h.one_lt
      have hlast := h.digit?_digit (n % radix) (Nat.mod_lt n hpos)
      obtain ⟨-, hdigits, hvalue⟩ := ih (n / radix) (Nat.div_lt_self (by omega) h.one_lt)
      refine ⟨by simp, List.forall_mem_append.mpr ⟨hdigits, by simp [hlast]⟩, ?_⟩
      rw [List.foldl_append, hvalue, List.foldl_cons, List.foldl_nil, hlast]
      exact Nat.div_add_mod n radix

/-- How many digits a number has at most. -/
theorem length_le (h : IsPositional radix digit? digit write) {n k : Nat}
    (hn : n < radix ^ (k + 1)) : (write n).length ≤ k + 1 := by
  induction k generalizing n with
  | zero =>
    rw [h.write_eq, if_pos (by simpa using hn)]
    exact Nat.le_refl 1
  | succ k ih =>
    rw [h.write_eq]
    split
    · simp
    · have hdiv : n / radix < radix ^ (k + 1) := by
        refine Nat.div_lt_of_lt_mul ?_
        rwa [Nat.pow_succ, Nat.mul_comm] at hn
      rw [List.length_append, List.length_singleton]
      exact Nat.succ_le_succ (ih hdiv)

end IsPositional

end Text.Numeral

namespace Endpoint

open Text.Numeral

/-! ## Numbers -/

/-- Where some digits end: what follows is no digit. -/
def EndsDigits (digit? : Char → Option Nat) (rest : List Char) : Prop :=
  ∀ c ∈ rest.head?, digit? c = none

theorem endsDigits_cons {digit? : Char → Option Nat} {c : Char} (h : digit? c = none)
    (rest : List Char) : EndsDigits digit? (c :: rest) := by
  rintro _ ⟨⟩
  exact h

theorem EndsDigits.takeWhile_eq_nil {digit? : Char → Option Nat} {rest : List Char}
    (h : EndsDigits digit? rest) : rest.takeWhile (fun c => (digit? c).isSome) = [] := by
  cases rest with
  | nil => rfl
  | cons c rest => exact List.takeWhile_cons_of_neg (by simp [h c rfl])

variable {rest s : List Char}

section Number

variable {radix bound : Nat} {digit? : Char → Option Nat} {most : Option Nat} {zerosInFront : Bool}

/-- **A number is read in front of what follows it.** -/
theorem readNumber_append {digits : List Char} {n : Fin bound}
    (hdigits : Spells radix digit? digits n) (hrest : EndsDigits digit? rest)
    (hmost : ∀ m ∈ most, digits.length ≤ m)
    (hzeros : zerosInFront = true ∨ (digits.head? = some '0' → digits.length = 1)) :
    readNumber radix digit? most zerosInFront bound (digits ++ rest) = some (n, rest) := by
  have htake : (digits ++ rest).takeWhile (fun c => (digit? c).isSome) = digits := by
    rw [List.takeWhile_append_of_pos hdigits.isSome, hrest.takeWhile_eq_nil, List.append_nil]
  have hlength : ¬ (digits = [] ∨ most.any (· < digits.length) = true) := by
    rintro (hnil | hany)
    · exact hdigits.ne_nil hnil
    · obtain ⟨m, hm, hlt⟩ := (Option.any_eq_true _ _).mp hany
      exact Nat.not_lt.mpr (hmost m hm) (of_decide_eq_true hlt)
  have hfront : ¬ (¬ zerosInFront = true ∧ digits.head? = some '0' ∧ 1 < digits.length) := by
    rintro ⟨hfalse, hhead, hlt⟩
    rcases hzeros with htrue | hone
    · exact hfalse htrue
    · exact absurd (hone hhead) (Nat.ne_of_gt hlt)
  simp only [readNumber, htake, hdigits.value]
  rw [if_neg hlength, if_neg hfront, dif_pos n.isLt, List.drop_left]

/-- Where no digit stands, no number is read. -/
theorem readNumber_eq_none (h : EndsDigits digit? s) :
    readNumber radix digit? most zerosInFront bound s = none := by
  rw [readNumber]
  exact if_pos (.inl h.takeWhile_eq_nil)

/-- What is left behind a number stood there before. -/
theorem mem_of_readNumber {n : Fin bound} {c : Char}
    (h : readNumber radix digit? most zerosInFront bound s = some (n, rest)) (hc : c ∈ rest) :
    c ∈ s := by
  simp only [readNumber] at h
  split at h
  · cases h
  split at h
  · cases h
  split at h
  · obtain ⟨-, rfl⟩ := Prod.mk.inj (Option.some.inj h)
    exact List.mem_of_mem_drop hc
  · cases h

end Number

/-- A number in decimal is read back. -/
theorem readDecimal_append {bound : Nat} (n : Fin bound) (h : EndsDigits digit? rest) :
    readDecimal bound (Text.Numeral.write n ++ rest) = some (n, rest) :=
  readNumber_append (isPositional_write.spells n) h (by simp) (.inl rfl)

/-- A byte is read back: it has three digits at most, and no zero in front. -/
theorem readByte_append (n : Fin 256) (h : EndsDigits digit? rest) :
    readByte (Text.Numeral.write n ++ rest) = some (n, rest) := by
  refine readNumber_append (isPositional_write.spells n) h ?_ (.inr fun hhead => ?_)
  · rintro _ ⟨⟩
    exact isPositional_write.length_le (Nat.lt_trans n.isLt (by decide))
  · obtain ⟨c, cs, hwrite, -, hzero⟩ := write_eq_cons n
    rw [hwrite] at hhead ⊢
    rw [hzero (Option.some.inj hhead)]
    rfl

/-- A group is read back: it has four digits at most. -/
theorem readGroup_append (g : Fin 65536) (h : EndsDigits hexDigit? rest) :
    readGroup (writeHex g ++ rest) = some (g, rest) := by
  refine readNumber_append (isPositional_writeHex.spells g) h ?_ (.inl rfl)
  rintro _ ⟨⟩
  exact isPositional_writeHex.length_le g.isLt

/-! ## Four bytes -/

@[simp]
theorem readChar_cons (c : Char) (s : List Char) : readChar c (c :: s) = some s := if_pos rfl

theorem readChar_eq_none {c : Char} (h : c ∉ s) : readChar c s = none := by
  cases s with
  | nil => rfl
  | cons x s =>
    refine if_neg ?_
    rintro rfl
    exact h List.mem_cons_self

theorem readChar_eq_some_iff {c : Char} : readChar c s = some rest ↔ s = c :: rest := by
  cases s with
  | nil => simp [readChar]
  | cons x s => simp [readChar]

theorem writeQuad_append (q : Quad) (rest : List Char) : writeQuad q ++ rest
    = Text.Numeral.write q.a ++ '.' :: (Text.Numeral.write q.b ++ '.' ::
      (Text.Numeral.write q.c ++ '.' :: (Text.Numeral.write q.d ++ rest))) := by
  simp [writeQuad, List.intercalate]

/-- **Four bytes are read back.** -/
theorem readQuad_append (q : Quad) (h : EndsDigits digit? rest) :
    readQuad (writeQuad q ++ rest) = some (q, rest) := by
  have hdot (s : List Char) : EndsDigits digit? ('.' :: s) := endsDigits_cons (by decide) s
  rw [writeQuad_append, readQuad, readByte_append q.a (hdot _)]
  simp [readByte_append q.b (hdot _), readByte_append q.c (hdot _), readByte_append q.d h]

/-- Where no digit stands, no four bytes do. -/
theorem readQuad_of_endsDigits (h : EndsDigits digit? s) : readQuad s = none := by
  have hbyte : readByte s = none := readNumber_eq_none h
  rw [readQuad, hbyte]
  rfl

/-- Where there is no dot, there are no four bytes. -/
theorem readQuad_of_not_mem (h : '.' ∉ s) : readQuad s = none := by
  rw [readQuad]
  rcases hread : readByte s with _ | ⟨a, s'⟩
  · rfl
  · have hchar : readChar '.' s' = none :=
      readChar_eq_none fun hmem => h (mem_of_readNumber hread hmem)
    simp [hchar]

/-! ## Groups -/

/-- Groups with colons between them, and one in front unless nothing stands there. -/
def spelled (first : Bool) : List (Fin 65536) → List Char
  | [] => []
  | g :: gs => (if first then [] else [':']) ++ writeHex g ++ spelled false gs

/-- Where some groups end: what follows goes on neither with a digit nor with a colon and a
digit. -/
structure EndsGroups (rest : List Char) : Prop where
  endsDigits : EndsDigits hexDigit? rest
  afterColon : ∀ s, rest = ':' :: s → EndsDigits hexDigit? s

theorem writeGroups_eq_spelled (gs : List (Fin 65536)) : writeGroups gs = spelled true gs := by
  cases gs with
  | nil => rfl
  | cons g gs =>
    show _ = writeHex g ++ spelled false gs
    induction gs generalizing g with
    | nil => exact List.intercalate_singleton.trans (List.append_nil _).symm
    | cons g' gs ih =>
      have hrest := ih g'
      rw [writeGroups, List.map_cons] at hrest
      rw [writeGroups, List.map_cons, List.map_cons, List.intercalate_cons_cons, hrest, spelled,
        List.append_assoc, List.append_assoc]
      rfl

theorem digit?_eq_none {c : Char} (h : hexDigit? c = none) : digit? c = none := by
  rw [hexDigit?] at h
  rw [digit?]
  split at h
  · cases h
  · next hc => exact if_neg hc

theorem EndsDigits.of_hex (h : EndsDigits hexDigit? s) : EndsDigits digit? s :=
  fun c hc => digit?_eq_none (h c hc)

/-- Where no group stands, none is read. -/
theorem readGroups_of_endsGroups (h : EndsGroups s) (room : Nat) (first : Bool) :
    readGroups room first s = ([], false, s) := by
  cases room with
  | zero => rfl
  | succ room =>
    rw [readGroups]
    rcases hs : (if first then some s else readChar ':' s) with _ | start
    · simp
    · have hends : EndsDigits hexDigit? start := by
        split at hs
        · exact Option.some.inj hs ▸ h.endsDigits
        · exact h.afterColon start (readChar_eq_some_iff.mp hs)
      have hquad : readQuad start = none := readQuad_of_endsDigits hends.of_hex
      have hgroup : readGroup start = none := readNumber_eq_none hends
      simp [hquad, hgroup]

theorem dot_not_mem_writeHex (n : Nat) : '.' ∉ writeHex n :=
  (isPositional_writeHex.spells n).not_mem (by decide)

/-- Where no dot follows, a group does not begin four bytes. -/
theorem readQuad_writeHex (g : Fin 65536) (hdot : '.' ∉ rest) :
    readQuad (writeHex g ++ rest) = none := by
  refine readQuad_of_not_mem ?_
  rw [List.mem_append, not_or]
  exact ⟨dot_not_mem_writeHex g, hdot⟩

/-- One group is read, and behind it goes on what reads the others. -/
theorem readGroups_cons {g : Fin 65536} (hends : EndsDigits hexDigit? rest)
    (hquad : readQuad (writeHex g ++ rest) = none) (room : Nat) (first : Bool) :
    readGroups (room + 1) first ((if first then [] else [':']) ++ writeHex g ++ rest)
      = ((readGroups room false rest).1.cons g, (readGroups room false rest).2) := by
  have hstart : (if first then some ((if first then [] else [':']) ++ writeHex g ++ rest)
      else readChar ':' ((if first then [] else [':']) ++ writeHex g ++ rest))
      = some (writeHex g ++ rest) := by
    cases first <;> simp
  rw [readGroups, hstart]
  simp [hquad, readGroup_append g hends]

theorem endsDigits_spelled (hends : EndsDigits hexDigit? rest) (gs : List (Fin 65536)) :
    EndsDigits hexDigit? (spelled false gs ++ rest) := by
  cases gs with
  | nil => exact hends
  | cons g gs => exact endsDigits_cons (by decide) _

theorem dot_not_mem_spelled (gs : List (Fin 65536)) (first : Bool) : '.' ∉ spelled first gs := by
  induction gs generalizing first with
  | nil => simp [spelled]
  | cons g gs ih => cases first <;> simp [spelled, ih, dot_not_mem_writeHex]

/-- **Groups are read back**, as far as there is room for them. -/
theorem readGroups_spelled {gs : List (Fin 65536)} {room : Nat} (hroom : gs.length ≤ room)
    (hends : EndsGroups rest) (hdot : '.' ∉ rest) (first : Bool) :
    readGroups room first (spelled first gs ++ rest) = (gs, false, rest) := by
  induction gs generalizing room first with
  | nil => exact readGroups_of_endsGroups hends room first
  | cons g gs ih =>
    cases room with
    | zero => cases hroom
    | succ room =>
      have hquad : readQuad (writeHex g ++ (spelled false gs ++ rest)) = none :=
        readQuad_writeHex g (by simp [dot_not_mem_spelled, hdot])
      rw [spelled, List.append_assoc,
        readGroups_cons (endsDigits_spelled hends.endsDigits gs) hquad,
        ih (Nat.le_of_succ_le_succ hroom)]

/-! ## Zeros left out -/

theorem replicate_zerosInFront (gs : List (Fin 65536)) :
    gs = List.replicate (Endpoint.zerosInFront gs) 0 ++ gs.drop (Endpoint.zerosInFront gs) := by
  have hzeros : gs.takeWhile (· = 0) = List.replicate (Endpoint.zerosInFront gs) 0 :=
    List.eq_replicate_of_mem fun g hg => by simpa using List.mem_takeWhile_imp hg
  rw [← hzeros, Endpoint.zerosInFront]
  exact (List.prefix_iff_eq_append.mp (List.takeWhile_prefix _)).symm

/-- What is found for a run of zeros is one. -/
theorem zerosInFront_longestZeros (gs : List (Fin 65536)) :
    (longestZeros gs).2 = 0
      ∨ (longestZeros gs).2 = Endpoint.zerosInFront (gs.drop (longestZeros gs).1) := by
  refine List.foldlRecOn (motive := fun (best : Nat × Nat) =>
    best.2 = 0 ∨ best.2 = Endpoint.zerosInFront (gs.drop best.1)) _ _ (.inl rfl) ?_
  intro best hbest i _
  dsimp only
  split
  · exact .inr rfl
  · exact hbest

/-- **An address is what stands in front of the zeros, the zeros, and what stands behind.** -/
theorem eq_around_zeros (gs : List (Fin 65536)) :
    gs = gs.take (longestZeros gs).1 ++ List.replicate (longestZeros gs).2 0
      ++ gs.drop ((longestZeros gs).1 + (longestZeros gs).2) := by
  rw [← List.drop_drop]
  rcases zerosInFront_longestZeros gs with h | h
  · rw [h]; simp
  · rw [h, List.append_assoc, ← replicate_zerosInFront, List.take_append_drop]

/-! ## Addresses -/

theorem ofList?_list (address : Groups) : ofList? address.list = some address :=
  dif_pos address.length_eq

/-- What follows an address of groups: neither a digit nor a colon, and a dot nowhere. -/
structure EndsAddress (rest : List Char) : Prop where
  endsGroups : EndsGroups rest
  no_dot : '.' ∉ rest

/-- An address with all its groups is read back. -/
theorem readAddress_writeGroups (address : Groups) (h : EndsAddress rest) :
    readAddress (writeGroups address.list ++ rest) = some (address, rest) := by
  have hroom : address.list.length ≤ 8 := Nat.le_of_eq address.length_eq
  simp only [readAddress, writeGroups_eq_spelled,
    readGroups_spelled hroom h.endsGroups h.no_dot true, if_pos address.length_eq,
    ofList?_list, Option.map_some]

theorem endsGroups_colons (s : List Char) : EndsGroups (':' :: ':' :: s) where
  endsDigits := endsDigits_cons (by decide) _
  afterColon := by
    rintro _ ⟨⟩
    exact endsDigits_cons (by decide) _

/-- Two groups or more that are zero are put back where they were left out. -/
theorem readAddress_around_zeros {head tail : List (Fin 65536)} {n : Nat} (address : Groups)
    (hlist : address.list = head ++ List.replicate n 0 ++ tail) (hn : 1 < n)
    (h : EndsAddress rest) :
    readAddress (writeGroups head ++ [':', ':'] ++ writeGroups tail ++ rest)
      = some (address, rest) := by
  have hlength : head.length + n + tail.length = 8 := by
    rw [← address.length_eq, hlist]
    simp [Nat.add_assoc]
  have hdot : '.' ∉ ':' :: ':' :: (spelled true tail ++ rest) := by
    simp [dot_not_mem_spelled, h.no_dot]
  have hroom : head.length ≤ 8 := by omega
  -- two colons stand for one group at least, and here they stand for two
  have hroomTail : tail.length ≤ 7 - head.length := by omega
  have hhead :=
    readGroups_spelled hroom (endsGroups_colons (spelled true tail ++ rest)) hdot true
  have htail := readGroups_spelled hroomTail h.endsGroups h.no_dot true
  have hzeros : 8 - head.length - tail.length = n := by omega
  have hhead8 : head.length ≠ 8 := by omega
  have hfilled : ofList? (head ++ (List.replicate n 0 ++ tail)) = some address := by
    rw [← List.append_assoc, ← hlist, ofList?_list]
  simp only [writeGroups_eq_spelled, List.append_assoc, List.cons_append, List.nil_append]
  simp [readAddress, hhead, htail, hhead8, hzeros, hfilled]

theorem quadGroups_lastQuad (g h : Fin 65536) : quadGroups (lastQuad g h) = [g, h] := by
  have hdigits (n : Fin 65536) (hn) : (⟨256 * (n / 256) + n % 256, hn⟩ : Fin 65536) = n :=
    Fin.ext (Nat.div_add_mod n 256)
  simp [quadGroups, lastQuad, hdigits]

theorem writeHex_ffff : writeHex (65535 : Fin 65536) = ['f', 'f', 'f', 'f'] := by
  decide +kernel

/-- Four bytes behind the group `ffff` are read as the groups that they make. -/
theorem readAddress_mapped (address : Groups) {g h : Fin 65536}
    (hlist : address.list = [0, 0, 0, 0, 0, 65535, g, h]) (hends : EndsAddress rest) :
    readAddress ([':', ':', 'f', 'f', 'f', 'f', ':'] ++ writeQuad (lastQuad g h) ++ rest)
      = some (address, rest) := by
  set bytes := ':' :: (writeQuad (lastQuad g h) ++ rest) with hbytes
  have hquad := readQuad_append (lastQuad g h) hends.endsGroups.endsDigits.of_hex
  have hlast : readGroups 6 false bytes = ([g, h], true, rest) := by
    simp [readGroups, hbytes, hquad, quadGroups_lastQuad]
  have hffff : readQuad (writeHex (65535 : Fin 65536) ++ bytes) = none := by
    -- there are dots behind it, but `f` does not begin a byte
    rw [writeHex_ffff]
    exact readQuad_of_endsDigits (endsDigits_cons (by decide) _)
  have htail : readGroups 7 true ('f' :: 'f' :: 'f' :: 'f' :: bytes)
      = ([65535, g, h], true, rest) := by
    have hcons := readGroups_cons (endsDigits_cons (by decide) _) hffff 6 true
    rwa [writeHex_ffff, hlast] at hcons
  have hhead := readGroups_of_endsGroups
    (endsGroups_colons ('f' :: 'f' :: 'f' :: 'f' :: bytes)) 8 true
  have hfilled : ofList? [0, 0, 0, 0, 0, 65535, g, h] = some address := by
    rw [← hlist, ofList?_list]
  simp only [List.cons_append, List.nil_append, ← hbytes]
  simp [readAddress, hhead, htail, hfilled, List.replicate_succ]

/-- **An address of groups is read back.** -/
theorem readAddress_append (address : Groups) (h : EndsAddress rest) :
    readAddress (writeAddress address ++ rest) = some (address, rest) := by
  rw [writeAddress]
  split
  · next hlist => exact readAddress_mapped address hlist h
  · dsimp only [writeGroupAddress]
    split
    · next hlong => exact readAddress_around_zeros address (eq_around_zeros _) hlong h
    · exact readAddress_writeGroups address h

/-! ## Whole texts -/

theorem endsDigits_nil (digit? : Char → Option Nat) : EndsDigits digit? [] := by
  rintro _ ⟨⟩

theorem readPort_write (port : Fin 65536) :
    readPort (':' :: Text.Numeral.write port) = some (port, []) := by
  have hread := readDecimal_append port (endsDigits_nil digit?)
  rw [List.append_nil] at hread
  simpa [readPort] using hread

/-- The zone of an address, which is left out where it is zero. -/
def writeZone (zone : Fin 4294967296) : List Char :=
  if zone.val = 0 then [] else '%' :: Text.Numeral.write zone

theorem readZone_append (zone : Fin 4294967296) (s : List Char) :
    ((readChar '%' (writeZone zone ++ ']' :: s)).bind (readDecimal 4294967296)).getD
      (0, writeZone zone ++ ']' :: s) = (zone, ']' :: s) := by
  rw [writeZone]
  split
  · next hzero =>
    obtain rfl : zone = 0 := Fin.ext hzero
    rfl
  · have hread := readDecimal_append zone (endsDigits_cons (c := ']') (by decide) s)
    simp [hread]

theorem endsAddress_zone (zone : Fin 4294967296) (port : Fin 65536) :
    EndsAddress (writeZone zone ++ ']' :: ':' :: Text.Numeral.write port) := by
  have hdot (n : Nat) : '.' ∉ Text.Numeral.write n :=
    (isPositional_write.spells n).not_mem (by decide)
  rw [writeZone]
  split
  · exact ⟨⟨endsDigits_cons (by decide) _, by simp⟩, by simp [hdot]⟩
  · exact ⟨⟨endsDigits_cons (by decide) _, by simp⟩, by simp [hdot]⟩

/-- **An address and its port are read back from their text.** -/
theorem parse?_text (endpoint : Endpoint) : parse? endpoint.text = some endpoint := by
  cases endpoint with
  | quad address port =>
    have hquad := readQuad_append address (endsDigits_cons (c := ':') (by decide)
      (Text.Numeral.write port))
    simp [parse?, text, write, readQuadEndpoint, hquad, readPort_write]
  | groups address zone port =>
    have hwrite : (groups address zone port).write
        = '[' :: (writeAddress address
          ++ (writeZone zone ++ ']' :: ':' :: Text.Numeral.write port)) := by
      simp [write, writeZone]
    have hquad : readQuad (groups address zone port).write = none := by
      rw [hwrite]
      exact readQuad_of_endsDigits (endsDigits_cons (by decide) _)
    have haddress := readAddress_append address (endsAddress_zone zone port)
    have hgroups : readGroupsEndpoint (groups address zone port).write
        = some (groups address zone port, []) := by
      rw [hwrite]
      simp [readGroupsEndpoint, haddress, readZone_append, readPort_write]
    simp [parse?, text, readQuadEndpoint, hquad, hgroups]

example : (parse? "[1:0:0:0::2%007]:0080").map text = some "[1::2%7]:80" := by decide +kernel

/-- What ends with a number ends with no blank. -/
theorem isBlank_getLast?_append_write (s : List Char) (n : Nat) :
    ∀ c ∈ (s ++ Text.Numeral.write n).getLast?, Text.isBlank c = false := by
  intro c hc
  rw [List.getLast?_append_of_ne_nil _ (Text.Numeral.write_ne_nil n)] at hc
  exact isBlank_of_isDigit
    ((isPositional_write.spells n).isSome c (List.mem_of_mem_getLast? hc))

/-- The text of an address has no blanks around it. -/
theorem trimmed_text (endpoint : Endpoint) : Text.trimmed endpoint.text = endpoint.text := by
  refine congrArg String.ofList ?_
  rw [text, String.toList_ofList]
  cases endpoint with
  | quad address port =>
    have hwrite : (quad address port).write
        = writeQuad address ++ [':'] ++ Text.Numeral.write port := by
      simp [write]
    rw [hwrite]
    refine Text.trim_of_ends (fun c hc => ?_) (isBlank_getLast?_append_write _ _)
    rw [List.append_assoc, writeQuad_append,
      List.head?_append_of_ne_nil _ (Text.Numeral.write_ne_nil _)] at hc
    exact isBlank_of_isDigit ((isPositional_write.spells _).isSome c (List.mem_of_mem_head? hc))
  | groups address zone port =>
    have hwrite : (groups address zone port).write
        = '[' :: writeAddress address ++ writeZone zone ++ [']', ':']
          ++ Text.Numeral.write port := by
      simp [write, writeZone]
    rw [hwrite]
    refine Text.trim_of_ends ?_ (isBlank_getLast?_append_write _ _)
    rintro _ ⟨⟩
    decide

theorem text_ne_empty (endpoint : Endpoint) : endpoint.text ≠ "" := by
  intro hempty
  have hread := parse?_text endpoint
  rw [hempty] at hread
  cases hread

end Endpoint

end StationFinder
