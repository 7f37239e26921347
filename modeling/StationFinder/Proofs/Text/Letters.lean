import StationFinder.Text.Cut

/-!
# Proofs/Text/Letters — texts that are the same up to the case of their letters

Two texts with the same letters are equally long and agree place by place (`sameLetters_cons_iff`).
At a place where one of them has a letter the other one has it too, large or small
(`eq_or_eq_of_toLower_eq`); where it has none, they have the same character (`eq_of_toLower_eq`).
-/

namespace StationFinder.Text

variable {c d : Char} {s t : List Char}

/-- What has a given lower case: the character itself, or the letter 32 places before it. -/
theorem toLower_eq (h : c.toLower = d) :
    c = d ∨ 65 ≤ c.toNat ∧ c.toNat ≤ 90 ∧ c.toNat + 32 = d.toNat := by
  by_cases hc : c.val ≥ 'A'.val ∧ c.val ≤ 'Z'.val
  · have hlo : 65 ≤ c.toNat := hc.1
    have hhi : c.toNat ≤ 90 := hc.2
    have hlower : c.toLower.val = c.val + 32 := congrArg Char.val (dif_pos hc)
    have hadd : (c.val + 32).toNat = (c.val.toNat + 32) % 2 ^ 32 := UInt32.toNat_add _ _
    have hd : d.toNat = (c.val + 32).toNat := by rw [← h, ← hlower]; rfl
    have hnat : c.val.toNat = c.toNat := rfl
    refine .inr ⟨hlo, hhi, ?_⟩
    omega
  · exact .inl ((dif_neg hc).symm.trans h)

theorem eq_of_toLower_eq (hd : d.toNat < 97) (h : c.toLower = d) : c = d := by
  rcases toLower_eq h with h | h
  · exact h
  · omega

/-- A small letter is the lower case of itself and of the large letter. -/
theorem eq_or_eq_of_toLower_eq {large : Char} (hlarge : large.toNat + 32 = d.toNat)
    (h : c.toLower = d) : c = large ∨ c = d := by
  rcases toLower_eq h with h | ⟨-, -, h⟩
  · exact .inr h
  · exact .inl (Char.toNat_inj.mp (Nat.add_right_cancel (h.trans hlarge.symm)))

theorem sameLetters_nil_iff : sameLetters s [] = true ↔ s = [] := by
  rw [sameLetters, beq_iff_eq, List.map_nil, List.map_eq_nil_iff]

theorem sameLetters_cons_iff : sameLetters s (d :: t) = true
    ↔ ∃ c s', s = c :: s' ∧ c.toLower = d.toLower ∧ sameLetters s' t = true := by
  simp only [sameLetters, beq_iff_eq, List.map_cons, List.map_eq_cons_iff]

/-- A text has the letters of a word in small letters exactly if it is that word in lower case. -/
theorem sameLetters_iff_toLower {word : String}
    (h : word.toList.map Char.toLower = word.toList) :
    sameLetters s word.toList = true ↔ (String.ofList s).toLower = word := by
  show sameLetters s word.toList = true ↔ (String.ofList s).map Char.toLower = word
  rw [sameLetters, beq_iff_eq, h, ← String.toList_inj, String.toList_map, String.toList_ofList]

end StationFinder.Text
