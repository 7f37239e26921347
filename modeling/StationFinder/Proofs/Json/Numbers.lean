import StationFinder.Proofs.Json.Readback
import StationFinder.Proofs.Text.Digits
import Mathlib.Tactic.IntervalCases

/-!
# Proofs/Json/Numbers — integers are read back

The digits of a number begin with a zero only where it stands alone, so the reader takes all of them
(`Text.Numeral.write_eq_cons`), and none is dropped from a significand that fits into 64 bits
(`appendDigits_of_extend`).  Where the value is over behind the digits, neither a fraction nor an
exponent is looked for: an integer of 64 bits, signed or unsigned, is read back
(`readAny_whole`).
-/

namespace StationFinder.Text.Numeral

variable {m n : Nat} {s : List Char}

theorem le_of_extend (h : extend m s = some n) : m ≤ n := by
  induction s generalizing m with
  | nil => exact Nat.le_of_eq (Option.some.inj h)
  | cons c s ih =>
    obtain ⟨d, -, hs⟩ := Option.bind_eq_some_iff.mp h
    exact Nat.le_trans (by omega) (ih hs)

end StationFinder.Text.Numeral

namespace StationFinder.Json

open Text.Numeral

variable {m n : Nat} {c : Char} {s cs rest : List Char}

/-- No digit is dropped as long as the number fits. -/
theorem appendDigits_of_extend (h : extend m s = some n) (hn : n ≤ maxSignificand) :
    appendDigits m s = (n, 0) := by
  induction s generalizing m with
  | nil => exact congrArg (·, 0) (Option.some.inj h)
  | cons c s ih =>
    obtain ⟨d, hd, hs⟩ := Option.bind_eq_some_iff.mp h
    have hc : c.toNat - '0'.toNat = d := by
      rw [digit?] at hd
      split at hd
      · exact Option.some.inj hd
      · cases hd
    rw [appendDigits, hc, if_pos (Nat.le_trans (le_of_extend hs) hn), ih hs]

theorem EndsValue.not_digit (h : EndsValue rest) : ∀ c ∈ rest.head?, isDigit c = false := by
  intro c hc
  obtain rfl | rfl | rfl := h c hc <;> decide

theorem digitsOf_append (hcs : ∀ c ∈ cs, isDigit c = true) (h : EndsValue rest) :
    digitsOf (cs ++ rest) = cs := by
  rw [digitsOf, List.takeWhile_append_of_pos hcs]
  cases rest with
  | nil => simp
  | cons c t => rw [List.takeWhile_cons_of_neg (by simp [h.not_digit c rfl]), List.append_nil]

theorem afterDigits_append (hcs : ∀ c ∈ cs, isDigit c = true) (h : EndsValue rest) :
    afterDigits (cs ++ rest) = rest := by
  rw [afterDigits, List.dropWhile_append_of_pos hcs]
  cases rest with
  | nil => rfl
  | cons c t => exact List.dropWhile_cons_of_neg (by simp [h.not_digit c rfl])

/-- Where the value is over, a number has neither a fraction nor an exponent. -/
theorem afterInteger_of_endsValue (negative : Bool) (m : Nat) (h : EndsValue rest)
    (hs : s = rest) :
    ∃ hle, afterInteger negative m 0 s = .ok ⟨wholeNumber negative m, rest, hle⟩ := by
  subst hs
  refine ⟨Nat.le_refl _, ?_⟩
  cases s with
  | nil => rfl
  | cons c t => obtain rfl | rfl | rfl := h c rfl <;> rfl

theorem unsignedNumber_write (negative : Bool) (hm : m ≤ maxSignificand) (h : EndsValue rest) :
    Leaves (unsignedNumber negative) (Text.Numeral.write m ++ rest) (wholeNumber negative m)
      rest := by
  obtain ⟨c, cs, hwrite, hdigits, hzero⟩ := write_eq_cons m
  obtain ⟨hc, hcs⟩ := List.forall_mem_cons.mp hdigits
  have hall : appendDigits 0 (c :: cs) = (m, 0) :=
    appendDigits_of_extend (hwrite ▸ extend_write m) hm
  obtain ⟨hle, hafter⟩ :=
    afterInteger_of_endsValue negative m h (afterDigits_append hcs h)
  have hgood : ¬ (c = '0' ∧ cs ≠ []) := fun ⟨hc0, hne⟩ => hne (hzero hc0)
  rw [hwrite]
  refine ⟨by simp only [List.cons_append, List.length_cons, List.length_append]; omega, ?_⟩
  simp only [List.cons_append, unsignedNumber, digitsOf_append hcs h, if_neg (not_not.mpr hc),
    if_neg hgood, hall, bind, Except.bind, hafter]
  rfl

/-! ## Integers -/

theorem readAny_digit (depth : Nat) (hc : isDigit c = true) (s : List Char) :
    readAny depth (c :: s)
      = (unsignedNumber false (c :: s)).map (Scan.map number) := by
  obtain ⟨d, hd⟩ := Option.isSome_iff_exists.mp hc
  obtain ⟨hlt, rfl⟩ := digit?_eq_some_iff.mp hd
  interval_cases d <;> (rw [readAny, next?_cons (by decide)]; rfl)

theorem beginsValue_of_isDigit (hc : isDigit c = true) (s : List Char) : BeginsValue (c :: s) := by
  obtain ⟨d, hd⟩ := Option.isSome_iff_exists.mp hc
  obtain ⟨hlt, rfl⟩ := digit?_eq_some_iff.mp hd
  refine ⟨_, s, rfl, ?_⟩
  interval_cases d <;> decide

/-- A natural number of 64 bits is read back. -/
theorem readAny_natural (depth : Nat) (hm : m ≤ maxSignificand) :
    ReadsBack (readAny depth) (number (.whole m)) (number (.whole m)) := by
  have hwritten : (number (.whole m)).write = Text.Numeral.write m := by
    simp [Json.write, Number.write]
  obtain ⟨c, cs, hwrite, hdigits, -⟩ := write_eq_cons m
  have hc := hdigits c List.mem_cons_self
  refine ⟨fun rest hends => ?_, hwritten ▸ hwrite ▸ beginsValue_of_isDigit hc cs⟩
  have hreads := unsignedNumber_write false hm hends
  rw [hwrite] at hreads
  obtain ⟨hlt, heq⟩ := hreads
  rw [hwritten, hwrite]
  exact ⟨hlt, (readAny_digit depth hc _).trans (congrArg (Except.map (Scan.map number)) heq)⟩

/-- A negative integer of 64 bits is read back: its minus sign stands before no zero. -/
theorem readAny_negative (depth : Nat) (hpos : 0 < m) (hm : m ≤ Nat.pow 2 63) :
    ReadsBack (readAny depth) (number (.whole (-m))) (number (.whole (-m))) := by
  have hwritten : (number (.whole (-m))).write = '-' :: Text.Numeral.write m := by
    rw [Json.write, Number.write, if_pos (by omega), Int.natAbs_neg, Int.natAbs_natCast]
  have hwhole : wholeNumber true m = .whole (-m) := by
    rw [wholeNumber, if_neg (by simp), if_neg (by omega)]
  refine ⟨fun rest hends => ?_, hwritten ▸ ⟨_, _, rfl, by decide, by decide⟩⟩
  have hsignificand : m ≤ maxSignificand := Nat.le_trans hm (by decide)
  obtain ⟨hlt, heq⟩ := unsignedNumber_write true hsignificand hends
  rw [hwritten, List.cons_append]
  refine ⟨Nat.lt_succ_of_lt hlt, ?_⟩
  rw [readAny, next?_cons (by decide)]
  simp only [heq, hwhole]
  rfl

/-- **An integer of 64 bits is read back**, signed or unsigned. -/
theorem readAny_whole (depth : Nat) {n : Int} (low : -Nat.pow 2 63 ≤ n) (high : n < Nat.pow 2 64) :
    ReadsBack (readAny depth) (number (.whole n)) (number (.whole n)) := by
  obtain ⟨m, rfl | rfl⟩ := n.eq_nat_or_neg
  · exact readAny_natural depth (Nat.le_pred_of_lt (Int.ofNat_lt.mp high))
  · obtain rfl | hpos := Nat.eq_zero_or_pos m
    · exact readAny_natural depth (Nat.zero_le _)
    · exact readAny_negative depth hpos (Int.ofNat_le.mp (Int.neg_le_neg_iff.mp low))

end StationFinder.Json
