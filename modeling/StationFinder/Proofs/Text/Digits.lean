import StationFinder.Text.Blank
import StationFinder.Text.Numeral
import Mathlib.Data.Nat.Digits.Defs

/-!
# Proofs/Text/Digits — which number some digits stand for

A text stands for a number in base ten if it is made of digits and the number has these digits,
zeros in front of it included (`Denotes`).  `value?` finds this number and refuses all other texts
(`value?_eq_some_iff`).
-/

namespace StationFinder.Text.Numeral

variable {s : List Char} {m n : Nat}

/-- The digits are the ten characters of the numbers below ten. -/
theorem digit?_eq_some_iff {c : Char} : digit? c = some n ↔ n < 10 ∧ c = digitChar n := by
  constructor
  · intro h
    rw [digit?] at h
    split at h
    · next hc =>
      have hlo : 48 ≤ c.toNat := hc.1
      have hhi : c.toNat ≤ 57 := hc.2
      have hzero : '0'.toNat = 48 := rfl
      have hn : c.toNat - 48 = n := Option.some.inj h
      refine ⟨by omega, ?_⟩
      rw [digitChar, hzero, show 48 + n = c.toNat by omega, Char.ofNat_toNat]
    · cases h
  · rintro ⟨hn, rfl⟩
    exact digit?_digitChar hn

theorem isDigit_digitChar (h : n < 10) : isDigit (digitChar n) = true := by
  rw [isDigit, digit?_digitChar h]
  rfl

/-- A digit is no blank. -/
theorem isBlank_of_isDigit {c : Char} (h : isDigit c = true) : isBlank c = false := by
  have hblank : ∀ d < 10, isBlank (digitChar d) = false := by decide
  obtain ⟨d, hd⟩ := Option.isSome_iff_exists.mp h
  obtain ⟨hlt, rfl⟩ := digit?_eq_some_iff.mp hd
  exact hblank d hlt

/-- **A number is written in digits**, and a zero in front stands alone. -/
theorem write_eq_cons (n : Nat) :
    ∃ c cs, write n = c :: cs ∧ (∀ d ∈ c :: cs, isDigit d = true) ∧ (c = '0' → cs = []) := by
  fun_induction write n with
  | case1 n hn =>
    exact ⟨digitChar n, [], rfl, by simpa using isDigit_digitChar hn, fun _ => rfl⟩
  | case2 n hn ih =>
    obtain ⟨c, cs, hwrite, hdigits, hzero⟩ := ih
    have hlast := isDigit_digitChar (Nat.mod_lt n (by omega))
    refine ⟨c, cs ++ [digitChar (n % 10)], by rw [hwrite, List.cons_append], ?_, ?_⟩
    · rw [← List.cons_append]
      exact List.forall_mem_append.mpr ⟨hdigits, by simpa using hlast⟩
    · rintro rfl
      -- the digits in front would be those of zero
      have hextend := extend_write (n / 10)
      rw [hwrite, hzero rfl] at hextend
      have : 0 = n / 10 := Option.some.inj hextend
      omega

/-- A text consists of digits, and the number has them in base ten. -/
def Denotes (s : List Char) (n : Nat) : Prop :=
  ∃ ds : List Nat, ds ≠ [] ∧ (∀ d ∈ ds, d < 10) ∧ s = ds.map digitChar
    ∧ Nat.ofDigits 10 ds.reverse = n

/-- What digits stand for behind those of another number. -/
theorem extend_eq_some_iff : extend m s = some n ↔ ∃ ds : List Nat, (∀ d ∈ ds, d < 10)
    ∧ s = ds.map digitChar ∧ Nat.ofDigits 10 ds.reverse + 10 ^ ds.length * m = n := by
  induction s generalizing m with
  | nil =>
    rw [extend, Option.some.injEq]
    refine ⟨fun h => ⟨[], by simp, rfl, by simp [h]⟩, ?_⟩
    rintro ⟨ds, -, hds, hn⟩
    obtain rfl := List.map_eq_nil_iff.mp hds.symm
    simpa using hn
  | cons c s ih =>
    have hsum (d : Nat) (ds : List Nat) :
        Nat.ofDigits 10 (d :: ds).reverse + 10 ^ (d :: ds).length * m
          = Nat.ofDigits 10 ds.reverse + 10 ^ ds.length * (10 * m + d) := by
      rw [List.reverse_cons, Nat.ofDigits_append, Nat.ofDigits_singleton, List.length_reverse,
        List.length_cons]
      ring
    simp only [extend, Option.bind_eq_some_iff, digit?_eq_some_iff, ih]
    constructor
    · rintro ⟨d, ⟨hd, rfl⟩, ds, hds, rfl, hn⟩
      exact ⟨d :: ds, List.forall_mem_cons.mpr ⟨hd, hds⟩, rfl, (hsum d ds).trans hn⟩
    · rintro ⟨ds, hds, hs, hn⟩
      cases ds with
      | nil => cases hs
      | cons d ds =>
        obtain ⟨hd, hds⟩ := List.forall_mem_cons.mp hds
        obtain ⟨rfl, rfl⟩ := List.cons.inj hs
        exact ⟨d, ⟨hd, rfl⟩, ds, hds, rfl, (hsum d ds).symm.trans hn⟩

/-- **A text has the value of the number that it stands for.** -/
theorem value?_eq_some_iff : value? s = some n ↔ Denotes s n := by
  by_cases hs : s = []
  · refine iff_of_false (by rw [value?, if_pos hs]; simp) ?_
    rintro ⟨ds, hne, -, hmap, -⟩
    exact hne (List.map_eq_nil_iff.mp (hmap.symm.trans hs))
  · rw [value?, if_neg hs, extend_eq_some_iff]
    constructor
    · rintro ⟨ds, hds, rfl, hn⟩
      exact ⟨ds, fun hnil => hs (by rw [hnil]; rfl), hds, rfl, by simpa using hn⟩
    · rintro ⟨ds, -, hds, rfl, hn⟩
      exact ⟨ds, hds, rfl, by simpa using hn⟩

/-- The characters of a number are digits. -/
theorem Denotes.exists_digit {c : Char} (h : Denotes s n) (hc : c ∈ s) :
    ∃ d < 10, c = digitChar d := by
  obtain ⟨ds, -, hds, rfl, -⟩ := h
  obtain ⟨d, hd, rfl⟩ := List.mem_map.mp hc
  exact ⟨d, hds d hd, rfl⟩

end StationFinder.Text.Numeral
