import StationFinder.Proofs.Text.Occurrence

/-!
# Proofs/Text/Between — what stands between two separators

A text *avoids* a separator if the separator begins nowhere in it, whatever follows the text
(`length_le_of_avoids`).  That is more than not to contain it, and unlike that it is kept when texts
are joined (`avoids_append`).  What stands in front of a separator is found if it avoids it
(`cut?_append`), and so is what stands between two of them (`between?_append`).
-/

namespace StationFinder.Text

variable {sep s t : List Char} {c : Char}

/-- Two texts differ at a place that both of them have. -/
def clash : List Char → List Char → Bool
  | c :: s, d :: t => c ≠ d || clash s t
  | _, _ => false

/-- Nowhere in a text does a separator begin, whatever follows the text. -/
def avoids (sep : List Char) : List Char → Bool
  | [] => true
  | c :: s => clash sep (c :: s) && avoids sep s

theorem clash_append (h : clash sep s = true) (t : List Char) : clash sep (s ++ t) = true := by
  induction s generalizing sep with
  | nil => cases sep <;> cases h
  | cons d s ih =>
    cases sep with
    | nil => cases h
    | cons c sep =>
      rw [clash, Bool.or_eq_true] at h
      rw [List.cons_append, clash, Bool.or_eq_true]
      exact h.imp_right ih

theorem not_prefix_of_clash (h : clash sep s = true) : ¬ sep <+: s := by
  induction sep generalizing s with
  | nil => cases h
  | cons c sep ih =>
    cases s with
    | nil => exact fun hprefix => absurd (List.prefix_nil.mp hprefix) (List.cons_ne_nil c sep)
    | cons d s =>
      rw [clash, Bool.or_eq_true, decide_eq_true_iff] at h
      rw [List.cons_prefix_cons]
      rintro ⟨heq, htail⟩
      exact h.elim (fun hne => hne heq) fun hclash => ih hclash htail

/-- **A separator has no place within a text that avoids it**, whatever follows the text. -/
theorem length_le_of_avoids (h : avoids sep s = true) {before after : List Char}
    (heq : before ++ sep ++ after = s ++ t) : s.length ≤ before.length := by
  induction s generalizing before with
  | nil => exact Nat.zero_le _
  | cons c s ih =>
    obtain ⟨hclash, hs⟩ := Bool.and_eq_true_iff.mp h
    cases before with
    | nil => exact absurd ⟨after, heq⟩ (not_prefix_of_clash (clash_append hclash t))
    | cons d before => exact Nat.succ_le_succ (ih hs (List.cons.inj heq).2)

/-- **Joined texts avoid what each of them avoids.** -/
theorem avoids_append (hs : avoids sep s = true) (ht : avoids sep t = true) :
    avoids sep (s ++ t) = true := by
  induction s with
  | nil => exact ht
  | cons c s ih =>
    obtain ⟨hclash, hs⟩ := Bool.and_eq_true_iff.mp hs
    exact Bool.and_eq_true_iff.mpr ⟨clash_append hclash t, ih hs⟩

theorem avoids_toList_append {a b : String} (ha : avoids sep a.toList = true)
    (hb : avoids sep b.toList = true) : avoids sep (a ++ b).toList = true := by
  rw [String.toList_append]
  exact avoids_append ha hb

/-- Whether a text avoids a separator can be told from its characters. -/
theorem avoids_toList {a : String} (ha : a = String.ofList s) (h : avoids sep s = true) :
    avoids sep a.toList = true := by
  rw [ha, String.toList_ofList]
  exact h

/-- A text without the first character of a separator avoids it. -/
theorem avoids_of_not_mem (h : c ∉ s) (sep : List Char) : avoids (c :: sep) s = true := by
  induction s with
  | nil => rfl
  | cons d s ih =>
    rw [List.mem_cons, not_or] at h
    rw [avoids, clash, ih h.2, decide_eq_true h.1]
    rfl

/-- **What stands in front of a separator is found**, if it avoids the separator. -/
theorem cut?_append (h : avoids sep s = true) (t : List Char) :
    cut? sep (s ++ (sep ++ t)) = some (s, t) :=
  cut?_eq_some_iff.mpr ⟨List.append_assoc s sep t, fun _ _ heq => length_le_of_avoids h heq⟩

/-- What stands between the first place of one separator and the next place of another one. -/
def between? (opening closing s : List Char) : Option (List Char) := do
  let (_, rest) ← cut? opening s
  let (inside, _) ← cut? closing rest
  return inside

/-- **What stands between two separators is found.** -/
theorem between?_append {opening closing front inside : List Char}
    (hfront : avoids opening front = true) (hinside : avoids closing inside = true)
    (back : List Char) : between? opening closing
      (front ++ (opening ++ (inside ++ (closing ++ back)))) = some inside := by
  simp only [between?, cut?_append hfront, Option.bind_eq_bind, Option.bind_some,
    cut?_append hinside]
  rfl

/-! ## Many separators -/

/-- **A separator is found behind a text that lacks one of its characters.** -/
theorem cut?_append_of_not_mem (hsep : c ∈ sep) (hs : c ∉ s) (t : List Char) :
    cut? sep (s ++ (sep ++ t)) = some (s, t) := by
  obtain ⟨x, y, rfl, hx⟩ := List.eq_append_cons_of_mem hsep
  -- the first place of the character is within the separator
  have hfirst : IsFirstCut [c] (s ++ ((x ++ c :: y) ++ t)) (s ++ x) (y ++ t) :=
    isFirstCut_singleton_iff.mpr ⟨by simp, by simp [hs, hx]⟩
  refine cut?_eq_some_iff.mpr ⟨by simp, fun b a heq => ?_⟩
  have hle := hfirst.length_le (b ++ x) (y ++ a) (by simpa using heq)
  rw [List.length_append, List.length_append] at hle
  exact Nat.le_of_add_le_add_right hle

/-- What stands in front of each of some separators, which follow one another, and what is left
behind the last. -/
def cutAll? : List (List Char) → List Char → Option (List (List Char) × List Char)
  | [], s => some ([], s)
  | sep :: seps, s =>
    (cut? sep s).bind fun first => (cutAll? seps first.2).map fun more =>
      (first.1 :: more.1, more.2)

variable {seps parts : List (List Char)}

theorem cutAll?_eq_none (h : cut? sep s = none) : cutAll? (sep :: seps) s = none := by
  rw [cutAll?, h]
  rfl

/-- What is left is shorter by the separators, at least. -/
theorem length_of_cutAll? {rest : List Char} (h : cutAll? seps s = some (parts, rest)) :
    rest.length + seps.flatten.length ≤ s.length := by
  induction seps generalizing s parts with
  | nil =>
    cases h
    exact Nat.le_refl _
  | cons sep seps ih =>
    obtain ⟨⟨before, mid⟩, hcut, h⟩ := Option.bind_eq_some_iff.mp h
    obtain ⟨⟨more, last⟩, hmore, hlast⟩ := Option.map_eq_some_iff.mp h
    cases hlast
    have hle : last.length + seps.flatten.length ≤ mid.length := ih hmore
    have hlen := congrArg List.length (append_of_cut? hcut)
    simp only [List.length_append, List.flatten_cons] at hlen ⊢
    omega

/-- **What stands in front of each separator is found**, if there is a character that all the
separators have and none of the texts has. -/
theorem cutAll?_append (hseps : ∀ sep ∈ seps, c ∈ sep) (hparts : ∀ part ∈ parts, c ∉ part)
    (hlen : parts.length = seps.length) (t : List Char) :
    cutAll? seps ((List.zipWith (· ++ ·) parts seps).flatten ++ t) = some (parts, t) := by
  induction seps generalizing parts with
  | nil =>
    rw [List.length_nil, List.length_eq_zero_iff] at hlen
    rw [hlen]
    rfl
  | cons sep seps ih =>
    cases parts with
    | nil => cases hlen
    | cons part parts =>
      obtain ⟨hsep, hseps⟩ := List.forall_mem_cons.mp hseps
      obtain ⟨hpart, hparts⟩ := List.forall_mem_cons.mp hparts
      rw [List.zipWith_cons_cons, List.flatten_cons, List.append_assoc, List.append_assoc, cutAll?,
        cut?_append_of_not_mem hsep hpart, Option.bind_some, ih hseps hparts (Nat.succ.inj hlen),
        Option.map_some]

/-! ## Pieces -/

/-- What stands between two places of a character, or the ends of the text, is one of the pieces
into which the character divides the text. -/
theorem mem_splitOn {front piece back : List Char} (hpiece : c ∉ piece)
    (hfront : front = [] ∨ ∃ s, front = s ++ [c]) (hback : back = [] ∨ ∃ t, back = c :: t) :
    piece ∈ (front ++ piece ++ back).splitOn c := by
  have hhead : piece ∈ (piece ++ back).splitOn c := by
    rcases hback with rfl | ⟨t, rfl⟩
    · rw [List.append_nil, List.splitOn_eq_singleton hpiece]
      exact List.mem_singleton_self piece
    · rw [List.splitOn_append_cons_self_of_not_mem hpiece]
      exact List.mem_cons_self
  rcases hfront with rfl | ⟨s, rfl⟩
  · exact hhead
  · rw [List.append_assoc, List.append_assoc, List.singleton_append,
      List.splitOn_append_cons_self]
    exact List.mem_append_right _ hhead

end StationFinder.Text
