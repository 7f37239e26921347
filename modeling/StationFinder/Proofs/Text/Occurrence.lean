import StationFinder.Text.Cut
import Mathlib.Data.List.Infix

/-!
# Proofs/Text/Occurrence — where a text stands within another

`cut?` finds the first occurrence of a separator: `cut?_eq_some_iff` says what comes of it when
there is one and `cut?_eq_none_iff` that there is none.  A text without a certain character cannot
stand across it (`infix_append_cons_iff`), which is why joined texts can be searched one by one.
-/

namespace StationFinder.Text

variable {sep s before after : List Char} {c : Char}

/-- What stands before and after the first occurrence of a separator. -/
structure IsFirstCut (sep s before after : List Char) : Prop where
  append_eq : before ++ sep ++ after = s
  /-- No occurrence begins earlier. -/
  length_le : ∀ b a, b ++ sep ++ a = s → before.length ≤ b.length

/-- A text is cut at its first occurrence of a separator in one way only. -/
theorem IsFirstCut.unique {before' after' : List Char} (h : IsFirstCut sep s before after)
    (h' : IsFirstCut sep s before' after') : before = before' ∧ after = after' := by
  have hlen : before.length = before'.length :=
    Nat.le_antisymm (h.length_le _ _ h'.append_eq) (h'.length_le _ _ h.append_eq)
  have heq := h.append_eq.trans h'.append_eq.symm
  rw [List.append_assoc, List.append_assoc] at heq
  obtain ⟨hb, ha⟩ := List.append_inj heq hlen
  exact ⟨hb, List.append_cancel_left ha⟩

/-! ## The two outcomes of a cut -/

theorem infix_of_cut? (h : cut? sep s = some (before, after)) : sep <:+: s :=
  ⟨before, after, append_of_cut? h⟩

/-- Where a separator stands, the text is cut, and not behind that place. -/
theorem exists_cut?_of_append_eq {b a : List Char} (h : b ++ sep ++ a = s) :
    ∃ before after, cut? sep s = some (before, after) ∧ before.length ≤ b.length := by
  induction s generalizing b with
  | nil =>
    obtain ⟨⟨rfl, rfl⟩, rfl⟩ := by simpa only [List.append_eq_nil_iff] using h
    exact ⟨[], [], rfl, Nat.le_refl 0⟩
  | cons d s ih =>
    rw [cut?]
    split
    · exact ⟨[], _, rfl, Nat.zero_le _⟩
    · next hp =>
      -- the occurrence is not at the front, so it lies in the rest of the text
      cases b with
      | nil => exact absurd (List.isPrefixOf_iff_prefix.mpr ⟨a, h⟩) hp
      | cons d' b =>
        obtain ⟨before, after, hcut, hle⟩ := ih (b := b) (List.cons.inj h).2
        exact ⟨d :: before, after, by rw [hcut]; rfl, Nat.succ_le_succ hle⟩

/-- A text is not cut exactly when the separator does not stand in it. -/
theorem cut?_eq_none_iff : cut? sep s = none ↔ ¬ sep <:+: s := by
  constructor
  · rintro hnone ⟨b, a, h⟩
    obtain ⟨_, _, hcut, -⟩ := exists_cut?_of_append_eq h
    rw [hnone] at hcut
    cases hcut
  · intro h
    rcases hcut : cut? sep s with _ | ⟨before, after⟩
    · rfl
    · exact absurd (infix_of_cut? hcut) h

/-- **A text is cut at the first occurrence of the separator.** -/
theorem cut?_eq_some_iff :
    cut? sep s = some (before, after) ↔ IsFirstCut sep s before after := by
  have sound {b a : List Char} (h : cut? sep s = some (b, a)) : IsFirstCut sep s b a := by
    refine ⟨append_of_cut? h, fun b' a' h' => ?_⟩
    obtain ⟨_, _, hcut, hle⟩ := exists_cut?_of_append_eq h'
    obtain ⟨rfl, rfl⟩ := Prod.mk.inj (Option.some.inj (h.symm.trans hcut))
    exact hle
  refine ⟨sound, fun h => ?_⟩
  obtain ⟨b, a, hcut, -⟩ := exists_cut?_of_append_eq h.append_eq
  obtain ⟨rfl, rfl⟩ := h.unique (sound hcut)
  exact hcut

/-- **A text is contained in another exactly when it is a stretch of it.** -/
theorem contains_iff : contains sep s = true ↔ sep <:+: s := by
  rw [contains, ← not_iff_not, ← cut?_eq_none_iff, Bool.not_eq_true, Option.isSome_eq_false_iff,
    Option.isNone_iff_eq_none]

/-! ## Separators of one character -/

theorem singleton_infix_iff : [c] <:+: s ↔ c ∈ s := by
  rw [List.mem_iff_append]
  exact exists_congr fun b => exists_congr fun a => by simp [eq_comm]

theorem isFirstCut_singleton_iff :
    IsFirstCut [c] s before after ↔ s = before ++ c :: after ∧ c ∉ before := by
  constructor
  · intro h
    refine ⟨by simpa using h.append_eq.symm, fun hc => ?_⟩
    -- an occurrence within `before` would begin earlier
    obtain ⟨b, a, rfl⟩ := List.append_of_mem hc
    have hle := h.length_le b (a ++ [c] ++ after) (by simpa using h.append_eq)
    rw [List.length_append, List.length_cons] at hle
    omega
  · rintro ⟨rfl, hc⟩
    refine ⟨by simp, fun b a h => ?_⟩
    by_contra hlt
    have hpre : b ++ [c] <+: before := by
      refine List.prefix_of_prefix_length_le ⟨a, h⟩ ⟨c :: after, rfl⟩ ?_
      simp only [List.length_append, List.length_singleton]
      omega
    exact hc (hpre.subset (by simp))

/-- A text is cut at a character as at the text of that character. -/
theorem cutAt?_eq_cut? (c : Char) (s : List Char) : cutAt? c s = cut? [c] s := by
  induction s with
  | nil => rfl
  | cons d s ih =>
    by_cases hd : d = c
    · subst hd
      simp [cutAt?, cut?]
    · rw [cut?, if_neg (by simpa using Ne.symm hd), ← ih]
      simp only [cutAt?, List.dropWhile_cons, List.takeWhile_cons, ne_eq, hd, not_false_eq_true,
        decide_true, if_true]
      cases s.dropWhile (· ≠ c) <;> rfl

theorem cutAt?_eq_none_iff : cutAt? c s = none ↔ c ∉ s := by
  rw [cutAt?_eq_cut?, cut?_eq_none_iff, singleton_infix_iff]

/-- **A text is cut at the first place where a character stands.** -/
theorem cutAt?_eq_some_iff :
    cutAt? c s = some (before, after) ↔ s = before ++ c :: after ∧ c ∉ before := by
  rw [cutAt?_eq_cut?, cut?_eq_some_iff, isFirstCut_singleton_iff]

/-! ## Joined texts -/

/-- **A text without a character does not stand across that character.** -/
theorem infix_append_cons_iff {part a b : List Char} (hc : c ∉ part) :
    part <:+: a ++ c :: b ↔ part <:+: a ∨ part <:+: b := by
  constructor
  · rintro ⟨x, y, h⟩
    rcases List.append_eq_append_iff.mp h with ⟨z, rfl, rfl⟩ | ⟨z, hz, hy⟩
    · exact .inl ⟨x, z, rfl⟩
    · rcases List.cons_eq_append_iff.mp hy with ⟨rfl, rfl⟩ | ⟨z, rfl, rfl⟩
      · exact .inl ⟨x, [], by simpa using hz⟩
      · -- the occurrence ends behind `c`, so it begins behind it
        rcases List.append_eq_append_iff.mp hz with ⟨w, rfl, hw⟩ | ⟨w, rfl, hw⟩
        · exact absurd (by simp [hw]) hc
        · rcases List.cons_eq_append_iff.mp hw with ⟨rfl, rfl⟩ | ⟨w, rfl, rfl⟩
          · exact absurd (by simp) hc
          · exact .inr ⟨w, y, rfl⟩
  · rintro (h | h)
    · exact h.trans (List.prefix_append a _).isInfix
    · exact h.trans ((List.suffix_cons c b).trans (List.suffix_append a _)).isInfix

end StationFinder.Text
