import StationFinder.Proofs.Text.Digits
import StationFinder.Proofs.Text.Occurrence
import StationFinder.Week.Minute

/-!
# Proofs/Week/Clock — which texts are clock times

`IsClock` says how a clock shows an hour and a minute: the hour in one digit or two, the minute in
two, and a colon between them.  `Minute.parse` reads these texts, with blanks around them, and no
others (`parse_eq_ok_iff`).
-/

namespace StationFinder

/-! ## Numbers below a hundred -/

namespace Text.Numeral

theorem utf8Size_digitChar {n : Nat} (h : n < 10) : (digitChar n).utf8Size = 1 := by
  have hall : ∀ n < 10, (digitChar n).utf8Size = 1 := by decide
  exact hall n h

theorem digitChar_ne_colon {n : Nat} (h : n < 10) : ':' ≠ digitChar n := by
  have hall : ∀ n < 10, ':' ≠ digitChar n := by decide
  exact hall n h

theorem value?_singleton {c : Char} {n : Nat} : value? [c] = some n ↔ n < 10 ∧ c = digitChar n := by
  rw [← digit?_eq_some_iff, value?, if_neg (List.cons_ne_nil _ _), extend]
  cases digit? c <;> simp [extend]

theorem value?_pair {c d : Char} {n : Nat} :
    value? [c, d] = some n ↔ n < 100 ∧ c = digitChar (n / 10) ∧ d = digitChar (n % 10) := by
  rw [value?, if_neg (List.cons_ne_nil _ _)]
  simp only [extend, Option.bind_eq_some_iff, digit?_eq_some_iff, Option.some.injEq]
  constructor
  · rintro ⟨a, ⟨ha, rfl⟩, b, ⟨hb, rfl⟩, rfl⟩
    refine ⟨by omega, congrArg digitChar ?_, congrArg digitChar ?_⟩ <;> omega
  · rintro ⟨hn, rfl, rfl⟩
    exact ⟨n / 10, ⟨by omega, rfl⟩, n % 10, ⟨by omega, rfl⟩, by omega⟩

end Text.Numeral

namespace Minute

open Text.Numeral (digitChar value?)

variable {s : List Char} {hour minute n : Nat} {t : Minute}

theorem value?_twoDigits (h : n < 100) : value? (twoDigits n) = some n :=
  Text.Numeral.value?_pair.mpr ⟨h, rfl, rfl⟩

theorem byteLength_twoDigits (h : n < 100) : Text.Utf8.byteLength (twoDigits n) = 2 := by
  have htens := Text.Numeral.utf8Size_digitChar (n := n / 10) (by omega)
  have hones := Text.Numeral.utf8Size_digitChar (n := n % 10) (by omega)
  simp [Text.Utf8.byteLength, twoDigits, htens, hones]

/-- A number in at most two bytes has one digit or two. -/
theorem digits_of_value? (h : value? s = some n) (hlen : Text.Utf8.byteLength s ≤ 2) :
    n < 10 ∧ s = [digitChar n] ∨ n < 100 ∧ s = twoDigits n := by
  have hle := Nat.le_trans (Text.Utf8.length_le_byteLength s) hlen
  match s, h, hle with
  | [c], h, _ =>
    obtain ⟨hn, rfl⟩ := Text.Numeral.value?_singleton.mp h
    exact .inl ⟨hn, rfl⟩
  | [c, d], h, _ =>
    obtain ⟨hn, rfl, rfl⟩ := Text.Numeral.value?_pair.mp h
    exact .inr ⟨hn, rfl⟩

/-- A number in exactly two bytes has two digits. -/
theorem eq_twoDigits_of_value? (h : value? s = some n) (hlen : Text.Utf8.byteLength s = 2) :
    s = twoDigits n := by
  rcases digits_of_value? h (Nat.le_of_eq hlen) with ⟨hn, rfl⟩ | ⟨-, rfl⟩
  · simp [Text.Utf8.byteLength, Text.Numeral.utf8Size_digitChar hn] at hlen
  · rfl

/-! ## Clock times -/

/-- The texts that show an hour and a minute: `H:MM` and `HH:MM`. -/
inductive IsClock : List Char → Nat → Nat → Prop
  | short {hour minute : Nat} : hour ≤ 9 → minute ≤ 59 →
      IsClock (digitChar hour :: ':' :: twoDigits minute) hour minute
  | long {hour minute : Nat} : hour ≤ 23 → minute ≤ 59 →
      IsClock (twoDigits hour ++ ':' :: twoDigits minute) hour minute

theorem IsClock.hour_le (h : IsClock s hour minute) : hour ≤ 23 := by
  cases h with
  | short hle _ => exact Nat.le_trans hle (by decide)
  | long hle _ => exact hle

/-- What stands before the colon of a clock time is a number in one byte or two. -/
theorem IsClock.exists_hours (h : IsClock s hour minute) :
    ∃ hours, s = hours ++ ':' :: twoDigits minute ∧ ':' ∉ hours ∧ hours ≠ []
      ∧ Text.Utf8.byteLength hours ≤ 2 ∧ value? hours = some hour := by
  cases h with
  | short hle _ =>
    have hlt : hour < 10 := Nat.lt_succ_of_le hle
    refine ⟨[digitChar hour], rfl, ?_, List.cons_ne_nil _ _, ?_,
      Text.Numeral.value?_singleton.mpr ⟨hlt, rfl⟩⟩
    · simpa using Text.Numeral.digitChar_ne_colon hlt
    · simp [Text.Utf8.byteLength, Text.Numeral.utf8Size_digitChar hlt]
  | long hle _ =>
    have hlt : hour < 100 := by omega
    refine ⟨twoDigits hour, rfl, ?_, List.cons_ne_nil _ _,
      Nat.le_of_eq (byteLength_twoDigits hlt), value?_twoDigits hlt⟩
    have htens := Text.Numeral.digitChar_ne_colon (n := hour / 10) (by omega)
    have hones := Text.Numeral.digitChar_ne_colon (n := hour % 10) (by omega)
    simp [twoDigits, htens, hones]

/-- What is read of a clock time on the way. -/
theorem parts_of_parse (h : parse s = .ok t) : ∃ hours minutes hour minute,
    Text.cutAt? ':' (Text.trim s) = some (hours, minutes)
      ∧ Text.Utf8.byteLength hours ≤ 2 ∧ value? hours = some hour
      ∧ Text.Utf8.byteLength minutes = 2 ∧ value? minutes = some minute
      ∧ ofClock? hour minute = some t := by
  simp only [parse, bind, Except.bind, throw, throwThe, MonadExceptOf.throw, pure,
    Except.pure] at h
  split at h <;> try cases h
  next hours minutes hcut =>
  split at h <;> try cases h
  next hlen =>
  split at h <;> try cases h
  next hour hhour =>
  split at h <;> try cases h
  split at h <;> try cases h
  next hlen' =>
  split at h <;> try cases h
  next minute hminute =>
  split at h <;> cases h
  next hclock =>
  exact ⟨hours, minutes, hour, minute, hcut, by omega, hhour, by omega, hminute, hclock⟩

theorem ofClock?_eq_some_iff :
    ofClock? hour minute = some t
      ↔ hour ≤ 23 ∧ minute ≤ 59 ∧ t.hour = hour ∧ t.minute = minute := by
  constructor
  · intro h
    rw [ofClock?] at h
    split at h <;> cases h
    next hle =>
    refine ⟨hle.1, hle.2, ?_, ?_⟩
    · simp only [Minute.hour]; omega
    · simp only [Minute.minute]; omega
  · rintro ⟨-, -, rfl, rfl⟩
    exact ofClock?_hour_minute t

/-- A text that shows a time on a clock is read as that time. -/
theorem parse_of_isClock (h : IsClock (Text.trim s) t.hour t.minute) : parse s = .ok t := by
  obtain ⟨hours, htrim, hcolon, hne, hlen, hvalue⟩ := h.exists_hours
  have hcut := Text.cutAt?_eq_some_iff.mpr ⟨htrim, hcolon⟩
  have hhour : ¬ 23 < t.hour := by have := t.hour_lt; omega
  have hminute : t.minute < 100 := by have := t.minute_lt; omega
  simp only [parse, hcut, hne, false_or, Nat.not_lt.mpr hlen, hvalue, hhour,
    byteLength_twoDigits hminute, value?_twoDigits hminute, ofClock?_hour_minute, ne_eq,
    not_true_eq_false, if_false]
  rfl

/-- **A text is read as a time exactly when a clock shows the time like this**, up to blanks. -/
theorem parse_eq_ok_iff : parse s = .ok t ↔ IsClock (Text.trim s) t.hour t.minute := by
  refine ⟨fun h => ?_, parse_of_isClock⟩
  obtain ⟨hours, minutes, hour, minute, hcut, hlen, hhour, hlen', hminute, hclock⟩ :=
    parts_of_parse h
  obtain ⟨hle, hle', rfl, rfl⟩ := ofClock?_eq_some_iff.mp hclock
  rw [(Text.cutAt?_eq_some_iff.mp hcut).1, eq_twoDigits_of_value? hminute hlen']
  rcases digits_of_value? hhour hlen with ⟨hlt, rfl⟩ | ⟨-, rfl⟩
  · exact .short (by omega) hle'
  · exact .long hle hle'

/-- A text is refused exactly when a clock never shows a time like this. -/
theorem exists_parse_eq_error_iff :
    (∃ fault, parse s = .error fault) ↔ ∀ t : Minute, ¬ IsClock (Text.trim s) t.hour t.minute := by
  simp only [← parse_eq_ok_iff]
  cases parse s <;> simp

end Minute

end StationFinder
