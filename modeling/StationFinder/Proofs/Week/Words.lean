import StationFinder.Proofs.Schedule.Written
import StationFinder.Proofs.Text.Utf8

/-!
# Proofs/Week/Words — clock times in words of 16 bits

`Minute.parseIn` reads a clock time as a machine does, byte by byte and with words of 16 bits.  A
number that needs more bits either stops the machine or loses its high bits (`Overflow`).  Digits
can bring that about, but not before the fifth one (`Overflow.extend_of_room`), and of a clock time
no more than two bytes are read as digits.  So both machines read what `Minute.parse` reads
(`parseIn_eq_parse`), which is an hour, a colon and a minute in ASCII digits
(`reads_clock_times_exactly`).
-/

namespace StationFinder

/-! ## Arithmetic in words -/

/-- What a machine does about a number that needs more than 16 bits. -/
inductive Overflow where
  /-- It goes on with the low 16 bits. -/
  | wraps
  /-- It stops. -/
  | stops

namespace Overflow

/-- The product of two words, if the machine goes on with it. -/
def mul? : Overflow → UInt16 → UInt16 → Option UInt16
  | wraps, a, b => some (a * b)
  | stops, a, b => if a.toNat * b.toNat < UInt16.size then some (a * b) else none

/-- The sum of two words, if the machine goes on with it. -/
def add? : Overflow → UInt16 → UInt16 → Option UInt16
  | wraps, a, b => some (a + b)
  | stops, a, b => if a.toNat + b.toNat < UInt16.size then some (a + b) else none

/-- The number that some bytes stand for behind the digits of `n`, if the machine gets to their end
and if all of them are digits.  Each byte is read as the character with its code. -/
def extend (o : Overflow) (n : UInt16) : List UInt8 → Option (Option UInt16)
  | [] => some (some n)
  | b :: bs =>
    match Text.Numeral.digit? (Char.ofUInt8 b) with
    | none => some none
    | some d =>
      (o.mul? n 10).bind fun tens => (o.add? tens (UInt16.ofNat d)).bind fun m => o.extend m bs

variable {o : Overflow} {m n : Nat}

theorem toNat_ofNat_le (n : Nat) : (UInt16.ofNat n).toNat ≤ n :=
  UInt16.toNat_ofNat' ▸ Nat.mod_le _ _

theorem mul?_ofNat (h : m * n < UInt16.size) :
    o.mul? (UInt16.ofNat m) (UInt16.ofNat n) = some (UInt16.ofNat (m * n)) := by
  rw [UInt16.ofNat_mul]
  cases o with
  | wraps => rfl
  | stops => exact if_pos (Nat.lt_of_le_of_lt
      (Nat.mul_le_mul (toNat_ofNat_le m) (toNat_ofNat_le n)) h)

theorem add?_ofNat (h : m + n < UInt16.size) :
    o.add? (UInt16.ofNat m) (UInt16.ofNat n) = some (UInt16.ofNat (m + n)) := by
  rw [UInt16.ofNat_add]
  cases o with
  | wraps => rfl
  | stops => exact if_pos (Nat.lt_of_le_of_lt
      (Nat.add_le_add (toNat_ofNat_le m) (toNat_ofNat_le n)) h)

/-- **Digits are read alike by all machines**, as long as a word has room for the number followed by
as many nines. -/
theorem extend_of_room {bs : List UInt8} (h : (n + 1) * 10 ^ bs.length ≤ UInt16.size) :
    o.extend (UInt16.ofNat n) bs
      = some ((Text.Numeral.extend n (bs.map Char.ofUInt8)).map UInt16.ofNat) := by
  induction bs generalizing n with
  | nil => rfl
  | cons b bs ih =>
    rw [extend, List.map_cons, Text.Numeral.extend]
    cases hdigit : Text.Numeral.digit? (Char.ofUInt8 b) with
    | none => rfl
    | some d =>
      have hd : d < 10 := (Text.Numeral.digit?_eq_some_iff.mp hdigit).1
      have hroom : (10 * n + d + 1) * 10 ^ bs.length ≤ UInt16.size := by
        calc (10 * n + d + 1) * 10 ^ bs.length
          _ ≤ ((n + 1) * 10) * 10 ^ bs.length := Nat.mul_le_mul_right _ (by omega)
          _ = (n + 1) * 10 ^ (b :: bs).length := by rw [List.length_cons]; ring
          _ ≤ UInt16.size := h
      have hsum : 10 * n + d < UInt16.size :=
        Nat.lt_of_lt_of_le (Nat.lt_succ_self _)
          (Nat.le_trans (Nat.le_mul_of_pos_right _ (Nat.pow_pos (by decide))) hroom)
      have htens : o.mul? (UInt16.ofNat n) 10 = some (UInt16.ofNat (10 * n)) := by
        have hproduct : n * 10 < UInt16.size := by omega
        rw [Nat.mul_comm 10 n]
        exact mul?_ofNat hproduct
      simp only [htens, Option.bind_some, add?_ofNat hsum]
      exact ih hroom

/-- Five digits can be too many. -/
example : stops.extend 0 (Text.Utf8.encode ['6', '5', '5', '3', '6']) = none := by decide

end Overflow

/-! ## Bytes as digits -/

namespace Text.Numeral

theorem digit?_of_not_ascii {c : Char} (h : 0x80 ≤ c.toNat) : digit? c = none := by
  refine if_neg fun hc => ?_
  have hhi : c.toNat ≤ 57 := hc.2
  omega

theorem toNat_ofUInt8 (b : UInt8) : (Char.ofUInt8 b).toNat = b.toNat := UInt8.toNat_toUInt32 b

theorem ofUInt8_ofNat {c : Char} (h : c.toNat < 0x80) : Char.ofUInt8 (UInt8.ofNat c.toNat) = c :=
  Char.toNat_inj.mp ((toNat_ofUInt8 _).trans
    (Utf8.toNat_ofNat_of_lt (Nat.lt_trans h (by decide))))

/-- **The bytes of a text stand for the same number as its characters**: where a character lies
outside ASCII its lead byte is no digit either. -/
theorem extend_encode (n : Nat) (s : List Char) :
    extend n ((Utf8.encode s).map Char.ofUInt8) = extend n s := by
  induction s generalizing n with
  | nil => rfl
  | cons c s ih =>
    rw [Utf8.encode, List.flatMap_cons, ← Utf8.encode, List.map_append]
    by_cases hc : c.toNat < 0x80
    · rw [Utf8.utf8EncodeChar_of_lt hc, List.map_singleton, ofUInt8_ofNat hc,
        List.singleton_append, extend, extend]
      exact congrArg _ (funext fun d => ih (10 * n + d))
    · have hc := Nat.le_of_not_lt hc
      obtain ⟨b, bs, hbytes, hb⟩ := Utf8.exists_lead hc
      rw [hbytes, List.map_cons, List.cons_append, extend, extend, digit?_of_not_ascii hc,
        digit?_of_not_ascii ((toNat_ofUInt8 b).symm ▸ hb)]
      rfl

end Text.Numeral

namespace Minute

open Text (Numeral.Denotes Numeral.value? Utf8.encode Utf8.byteLength)

variable {o : Overflow} {s : List Char} {top hour minute n : Nat}

/-! ## Clock times in words -/

/-- Reads one number of a clock time, which is no larger than `top`. -/
def component (o : Overflow) (notDigits tooLarge : TimeFault) (top : UInt16) (bs : List UInt8) :
    ExceptT TimeFault Option UInt16 := do
  let some n ← o.extend 0 bs | throw notDigits
  if top < n then throw tooLarge
  return n

/-- The minutes after midnight at an hour and a minute, if the machine goes on with them. -/
def minutes? (o : Overflow) (hour minute : UInt16) : Option UInt16 :=
  (o.mul? hour 60).bind fun count => o.add? count minute

/-- Reads a clock time byte by byte and counts its minutes in a word. -/
def parseIn (o : Overflow) (s : List Char) : ExceptT TimeFault Option UInt16 := do
  let some (hours, minutes) := Text.cutAt? ':' (Text.trim s) | throw .noColon
  if Utf8.encode hours = [] ∨ 2 < (Utf8.encode hours).length then throw .hourLength
  let hour ← component o .hourNotDigits .hourTooLarge 23 (Utf8.encode hours)
  if (Utf8.encode minutes).length ≠ 2 then throw .minuteLength
  let minute ← component o .minuteNotDigits .minuteTooLarge 59 (Utf8.encode minutes)
  minutes? o hour minute

theorem extend_encode_eq_value? (hne : s ≠ []) (hlen : Utf8.byteLength s ≤ 2) :
    o.extend 0 (Utf8.encode s) = some ((Numeral.value? s).map UInt16.ofNat) := by
  have hroom : (0 + 1) * 10 ^ (Utf8.encode s).length ≤ UInt16.size := by
    rw [Text.Utf8.length_encode]
    exact Nat.le_trans (Nat.mul_le_mul_left _ (Nat.pow_le_pow_right (by decide) hlen)) (by decide)
  rw [Numeral.value?, if_neg hne, ← Text.Numeral.extend_encode]
  exact Overflow.extend_of_room hroom

theorem lt_of_value? (h : Numeral.value? s = some n) (hlen : Utf8.byteLength s ≤ 2) : n < 100 := by
  rcases digits_of_value? h hlen with ⟨hlt, -⟩ | ⟨hlt, -⟩
  · omega
  · exact hlt

theorem ofNat_lt_ofNat_iff (htop : top < 100) (hn : n < 100) :
    UInt16.ofNat top < UInt16.ofNat n ↔ top < n := by
  have hsize : 100 < UInt16.size := by decide
  rw [UInt16.lt_iff_toNat_lt, UInt16.toNat_ofNat_of_lt' (Nat.lt_trans htop hsize),
    UInt16.toNat_ofNat_of_lt' (Nat.lt_trans hn hsize)]

/-- A number in one byte or two is read alike by all machines. -/
theorem component_eq (notDigits tooLarge : TimeFault) (hne : s ≠ [])
    (hlen : Utf8.byteLength s ≤ 2) (htop : top < 100) :
    component o notDigits tooLarge (UInt16.ofNat top) (Utf8.encode s)
      = some (match Numeral.value? s with
        | none => .error notDigits
        | some n => if top < n then .error tooLarge else .ok (UInt16.ofNat n)) := by
  simp only [component, extend_encode_eq_value? hne hlen]
  cases hvalue : Numeral.value? s with
  | none => rfl
  | some n =>
    show (if _ then _ else _) = _
    simp only [ofNat_lt_ofNat_iff htop (lt_of_value? hvalue hlen)]
    split <;> rfl

/-- The minutes of a day have room in a word. -/
theorem minutes?_eq (hhour : hour ≤ 23) (hminute : minute ≤ 59) :
    minutes? o (UInt16.ofNat hour) (UInt16.ofNat minute)
      = some (UInt16.ofNat (hour * 60 + minute)) := by
  have hsize : UInt16.size = 65536 := rfl
  have hproduct : hour * 60 < UInt16.size := by omega
  have hsum : hour * 60 + minute < UInt16.size := by omega
  have hmul : o.mul? (UInt16.ofNat hour) 60 = _ := Overflow.mul?_ofNat hproduct
  rw [minutes?, hmul]
  exact Overflow.add?_ofNat hsum

/-- **All machines read the same of a text**, and none of them stops at a number. -/
theorem parseIn_eq_parse (o : Overflow) (s : List Char) :
    parseIn o s = some ((parse s).map word) := by
  -- both look at the hour first and then at the minute, and give up at the same place
  unfold parseIn parse
  cases Text.cutAt? ':' (Text.trim s) with
  | none => rfl
  | some cut =>
  obtain ⟨hours, minutes⟩ := cut
  simp only [Text.Utf8.encode_eq_nil_iff, Text.Utf8.length_encode]
  by_cases hhours : hours = [] ∨ 2 < Utf8.byteLength hours
  · simp only [if_pos hhours]; rfl
  obtain ⟨hne, hlen⟩ := not_or.mp hhours
  have hreadHour : component o _ _ 23 _ = _ :=
    component_eq (o := o) .hourNotDigits .hourTooLarge hne (Nat.le_of_not_lt hlen) (by decide)
  simp only [if_neg hhours, hreadHour]
  cases hhour : Numeral.value? hours with
  | none => rfl
  | some hour =>
  by_cases htop : 23 < hour
  · simp only [if_pos htop]; rfl
  simp only [if_neg htop]
  by_cases hlen' : Utf8.byteLength minutes ≠ 2
  · simp only [if_pos hlen']; rfl
  have htwo := Decidable.not_not.mp hlen'
  have hne' : minutes ≠ [] := by
    rintro rfl
    exact hlen' (by decide)
  have hreadMinute : component o _ _ 59 _ = _ :=
    component_eq (o := o) .minuteNotDigits .minuteTooLarge hne' (Nat.le_of_eq htwo) (by decide)
  simp only [if_neg hlen', hreadMinute]
  cases hminute : Numeral.value? minutes with
  | none => rfl
  | some minute =>
  by_cases htop' : 59 < minute
  · simp only [if_pos htop', ofClock?, dif_neg (show ¬ (hour ≤ 23 ∧ minute ≤ 59) by omega)]; rfl
  have hle : hour ≤ 23 ∧ minute ≤ 59 := ⟨Nat.le_of_not_lt htop, Nat.le_of_not_lt htop'⟩
  simp only [if_neg htop', ofClock?, dif_pos hle]
  show Except.ok <$> minutes? o (UInt16.ofNat hour) (UInt16.ofNat minute) = _
  rw [minutes?_eq hle.1 hle.2, ← UInt16.ofNatLT_eq_ofNat _]
  rfl

/-! ## What is a clock time -/

/-- The texts that show an hour and a minute: the hour in one digit or two, a colon, and the minute
in two digits. -/
def Shows (s : List Char) (hour minute : Nat) : Prop :=
  ∃ hours minutes, s = hours ++ ':' :: minutes
    ∧ (hours.length = 1 ∨ hours.length = 2) ∧ Numeral.Denotes hours hour ∧ hour ≤ 23
    ∧ minutes.length = 2 ∧ Numeral.Denotes minutes minute ∧ minute ≤ 59

theorem denotes_pair_iff (hlen : s.length = 2) :
    Numeral.Denotes s n ↔ n < 100 ∧ s = twoDigits n := by
  obtain ⟨c, d, rfl⟩ := List.length_eq_two.mp hlen
  rw [← Text.Numeral.value?_eq_some_iff, Text.Numeral.value?_pair, twoDigits]
  simp

theorem shows_iff_isClock : Shows s hour minute ↔ IsClock s hour minute := by
  constructor
  · rintro ⟨hours, minutes, rfl, hlen, hhour, hle, hlen', hminute, hle'⟩
    obtain ⟨-, rfl⟩ := (denotes_pair_iff hlen').mp hminute
    rcases hlen with hlen | hlen
    · obtain ⟨c, rfl⟩ := List.length_eq_one_iff.mp hlen
      obtain ⟨hlt, rfl⟩ :=
        Text.Numeral.value?_singleton.mp (Text.Numeral.value?_eq_some_iff.mpr hhour)
      exact .short (Nat.le_of_lt_succ hlt) hle'
    · obtain ⟨-, rfl⟩ := (denotes_pair_iff hlen).mp hhour
      exact .long hle hle'
  · have htwo {n : Nat} (hn : n < 100) : Numeral.Denotes (twoDigits n) n :=
      (denotes_pair_iff rfl).mpr ⟨hn, rfl⟩
    intro h
    cases h with
    | short hle hle' =>
      have hhour := Text.Numeral.value?_eq_some_iff.mp
        (Text.Numeral.value?_singleton.mpr ⟨Nat.lt_succ_of_le hle, rfl⟩)
      exact ⟨_, _, rfl, .inl rfl, hhour, by omega, rfl, htwo (by omega), hle'⟩
    | long hle hle' =>
      exact ⟨_, _, rfl, .inr rfl, htwo (by omega), hle, rfl, htwo (by omega), hle'⟩

/-- A time is read back from its text. -/
theorem parse_text (t : Minute) : parse t.text.toList = .ok t := by
  rw [text, String.toList_ofList]
  exact parse_of_isClock ((trim_write t).symm ▸ isClock_write t)

theorem exists_parse_of_shows (h : Shows (Text.trim s) hour minute) :
    ∃ t, parse s = .ok t ∧ t.count = 60 * hour + minute ∧ t.hour = hour ∧ t.minute = minute := by
  have hclock := shows_iff_isClock.mp h
  obtain ⟨-, -, -, -, -, hle, -, -, hle'⟩ := h
  have hlt : hour * 60 + minute < 1440 := by omega
  have hhour : (⟨hour * 60 + minute, hlt⟩ : Minute).hour = hour := by
    simp only [Minute.hour]; omega
  have hminute : (⟨hour * 60 + minute, hlt⟩ : Minute).minute = minute := by
    simp only [Minute.minute]; omega
  refine ⟨⟨hour * 60 + minute, hlt⟩, parse_of_isClock ?_, Nat.add_right_cancel_iff.mpr
    (Nat.mul_comm hour 60), hhour, hminute⟩
  rwa [hhour, hminute]

/-- **A text is read as a clock time exactly if it shows one**, blanks around it aside: then as the
time that it shows, and else with a fault.  The time is written as a text that is read as the same
time.  A machine with words of 16 bits reads the same, whatever it does about larger numbers. -/
theorem reads_clock_times_exactly (s : List Char) :
    ((∃ t, parse s = .ok t) ↔ ∃ hour minute, Shows (Text.trim s) hour minute)
      ∧ (∀ hour minute, Shows (Text.trim s) hour minute →
        60 * hour + minute < 1440 ∧ ∃ t, parse s = .ok t ∧ t.count = 60 * hour + minute
          ∧ t.hour = hour ∧ t.minute = minute ∧ parse t.text.toList = .ok t)
      ∧ ((∃ fault, parse s = .error fault) ↔ ¬ ∃ hour minute, Shows (Text.trim s) hour minute)
      ∧ ∀ o, parseIn o s = some ((parse s).map word) := by
  have hiff : (∃ t, parse s = .ok t) ↔ ∃ hour minute, Shows (Text.trim s) hour minute := by
    constructor
    · rintro ⟨t, ht⟩
      exact ⟨t.hour, t.minute, shows_iff_isClock.mpr (parse_eq_ok_iff.mp ht)⟩
    · rintro ⟨hour, minute, h⟩
      obtain ⟨t, ht, -⟩ := exists_parse_of_shows h
      exact ⟨t, ht⟩
  refine ⟨hiff, fun hour minute h => ?_, ?_, fun o => parseIn_eq_parse o s⟩
  · obtain ⟨t, ht, hcount, hhour, hminute⟩ := exists_parse_of_shows h
    exact ⟨hcount ▸ t.count_lt, t, ht, hcount, hhour, hminute, parse_text t⟩
  · rw [← hiff]
    cases parse s <;> simp

/-- An hour in one digit, with a blank in front and an ideographic space behind. -/
theorem reads_padded_short_hour :
    Shows (Text.trim [' ', '7', ':', '0', '5', '\u3000']) 7 5
      ∧ ∃ t, parse [' ', '7', ':', '0', '5', '\u3000'] = .ok t ∧ t.count = 425
        ∧ parseIn .stops [' ', '7', ':', '0', '5', '\u3000'] = some (.ok 425) := by
  have htrim : Text.trim [' ', '7', ':', '0', '5', '\u3000']
      = Text.Numeral.digitChar 7 :: ':' :: twoDigits 5 := by decide
  have hshows : Shows (Text.trim [' ', '7', ':', '0', '5', '\u3000']) 7 5 :=
    shows_iff_isClock.mpr (htrim ▸ .short (by decide) (by decide))
  obtain ⟨-, hread, -, hwords⟩ :=
    reads_clock_times_exactly [' ', '7', ':', '0', '5', '\u3000']
  obtain ⟨-, t, ht, hcount, -⟩ := hread 7 5 hshows
  have hword : t.word = 425 := UInt16.toNat_inj.mp (t.toNat_word.trans hcount)
  refine ⟨hshows, t, ht, hcount, ?_⟩
  rw [hwords, ht, Except.map, hword]

end Minute

end StationFinder
