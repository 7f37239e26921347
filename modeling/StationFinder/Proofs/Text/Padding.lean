import StationFinder.Text.Blank
import StationFinder.Text.Cut
import Mathlib.Data.List.TakeWhile

/-!
# Proofs/Text/Padding — texts with blanks around them

`trim` takes away blanks at the two ends and nothing else: a text is what is left of it with blanks
around (`isPadded_trim`), and blanks that are put around a text do not change what is left
(`trim_eq_of_isPadded`).  In the same way `dropTrailing` takes away one character at the end
(`exists_eq_dropTrailing_append`).
-/

namespace StationFinder.Text

variable {core s l r : List Char}

/-- A text that consists of another one and blanks around it. -/
def IsPadded (core s : List Char) : Prop :=
  ∃ l r, (∀ c ∈ l, isBlank c = true) ∧ (∀ c ∈ r, isBlank c = true) ∧ s = l ++ core ++ r

/-- What stands in a text with blanks around is a blank or stands in the text without them. -/
theorem not_mem_of_isPadded {c : Char} (h : IsPadded core s) (hc : isBlank c = false)
    (hcore : c ∉ core) : c ∉ s := by
  obtain ⟨l, r, hl, hr, rfl⟩ := h
  have hblank : ¬ isBlank c = true := Bool.not_eq_true _ ▸ hc
  simp only [List.mem_append, not_or]
  exact ⟨⟨fun h => hblank (hl c h), hcore⟩, fun h => hblank (hr c h)⟩

/-- Nothing but blanks. -/
theorem isPadded_nil (h : ∀ c ∈ s, isBlank c = true) : IsPadded [] s :=
  ⟨s, [], h, List.forall_mem_nil _, by simp⟩

theorem trimEnd_append (hr : ∀ c ∈ r, isBlank c = true) : trimEnd (s ++ r) = trimEnd s := by
  rw [trimEnd, List.reverse_append,
    List.dropWhile_append_of_pos fun c hc => hr c (List.mem_reverse.mp hc), trimEnd]

/-- Blanks around a text do not change what is left when it is trimmed. -/
theorem trim_eq_of_isPadded (h : IsPadded core s) : trim s = trim core := by
  obtain ⟨l, r, hl, hr, rfl⟩ := h
  rw [trim, trimStart, List.append_assoc, List.dropWhile_append_of_pos hl, List.dropWhile_append]
  split
  · next hcore =>
    -- nothing but blanks is there
    rw [List.isEmpty_iff] at hcore
    rw [List.dropWhile_eq_nil_iff.mpr hr, trim, trimStart, hcore]
  · rw [trimEnd_append hr, trim, trimStart]

/-- What is behind the last character that is not blank are blanks. -/
theorem exists_eq_trimEnd_append (s : List Char) :
    ∃ r, (∀ c ∈ r, isBlank c = true) ∧ s = trimEnd s ++ r := by
  refine ⟨(s.reverse.takeWhile isBlank).reverse,
    fun c hc => List.mem_takeWhile_imp (List.mem_reverse.mp hc), ?_⟩
  rw [trimEnd, ← List.reverse_append, List.takeWhile_append_dropWhile, List.reverse_reverse]

/-- What is in front of the first character that is not blank are blanks. -/
theorem exists_eq_append_trimStart (s : List Char) :
    ∃ l, (∀ c ∈ l, isBlank c = true) ∧ s = l ++ trimStart s :=
  ⟨s.takeWhile isBlank, fun _ hc => List.mem_takeWhile_imp hc,
    List.takeWhile_append_dropWhile.symm⟩

/-- A text is what is left when it is trimmed, with blanks around. -/
theorem isPadded_trim (s : List Char) : IsPadded (trim s) s := by
  obtain ⟨l, hl, hs⟩ := exists_eq_append_trimStart s
  obtain ⟨r, hr, hstart⟩ := exists_eq_trimEnd_append (trimStart s)
  refine ⟨l, r, hl, hr, ?_⟩
  rw [trim, List.append_assoc, ← hstart, ← hs]

/-- **Trimming leaves a text exactly when the text stands with blanks around**, for a text that has
no blanks at its ends. -/
theorem trim_eq_iff_isPadded (hcore : trim core = core) : trim s = core ↔ IsPadded core s :=
  ⟨fun h => h ▸ isPadded_trim s, fun h => (trim_eq_of_isPadded h).trans hcore⟩

/-- A text that neither begins nor ends with a blank is left as it is. -/
theorem trim_of_ends (hfirst : ∀ c ∈ s.head?, isBlank c = false)
    (hlast : ∀ c ∈ s.getLast?, isBlank c = false) : trim s = s := by
  have hstart (s : List Char) (h : ∀ c ∈ s.head?, isBlank c = false) : s.dropWhile isBlank = s := by
    cases s with
    | nil => rfl
    | cons c s => exact List.dropWhile_cons_of_neg (by simp [h c rfl])
  rw [trim, trimStart, hstart s hfirst, trimEnd, hstart s.reverse (by simpa using hlast),
    List.reverse_reverse]

/-- A text without blanks is left as it is. -/
theorem trim_of_forall (h : ∀ c ∈ s, isBlank c = false) : trim s = s :=
  trim_of_ends (fun c hc => h c (List.mem_of_mem_head? hc))
    fun c hc => h c (List.mem_of_mem_getLast? hc)

/-- What is left of a text that is more than blanks. -/
theorem nonBlank_eq_some_iff {text value : String} :
    nonBlank text = some value ↔ trimmed text = value ∧ value ≠ "" := by
  rw [nonBlank]
  split
  · next hblank => simp [hblank, eq_comm]
  · next hblank =>
    rw [Option.some.injEq]
    exact ⟨fun h => ⟨h, h ▸ hblank⟩, fun h => h.1⟩

/-- Only the given character is dropped at the end of a text, and none of it is left there. -/
theorem exists_eq_dropTrailing_append (c : Char) (s : List Char) : ∃ n,
    s = dropTrailing c s ++ List.replicate n c ∧ (dropTrailing c s).getLast? ≠ some c := by
  have hdropped : ∀ b ∈ (s.reverse.takeWhile (· = c)).reverse, b = c := by
    intro b hb
    simpa using List.mem_takeWhile_imp (List.mem_reverse.mp hb)
  refine ⟨(s.reverse.takeWhile (· = c)).reverse.length, ?_, ?_⟩
  · rw [← List.eq_replicate_of_mem hdropped, dropTrailing, ← List.reverse_append,
      List.takeWhile_append_dropWhile, List.reverse_reverse]
  · rw [dropTrailing, List.getLast?_reverse]
    intro hlast
    have hstays := List.head?_dropWhile_not (· = c) s.reverse
    rw [hlast] at hstays
    simp at hstays

end StationFinder.Text
