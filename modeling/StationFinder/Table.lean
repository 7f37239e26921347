/-!
# Table — values under text keys, in ascending order of the keys

The entries are sorted by code point and no key stands twice, so a table is determined by what it
holds (`Table.ext_get?`) and two ways of filling it that end with the same contents give equal
tables.  `Entries` has the same operations on bare lists, for values that contain such lists.
-/

namespace StationFinder

namespace Entries

variable {α : Type} {k l : String} {v : α} {es : List (String × α)}

/-- The entries stand in strictly ascending order of their keys. -/
abbrev Ascending (es : List (String × α)) : Prop := es.Pairwise fun a b => a.1 < b.1

/-- Puts a value under a key, in place of the one that was there. -/
def put (k : String) (v : α) : List (String × α) → List (String × α)
  | [] => [(k, v)]
  | e :: es =>
    if k < e.1 then (k, v) :: e :: es
    else if k = e.1 then (k, v) :: es
    else e :: put k v es

/-- The entries that remain when pairs are put one after the other, the last of a key deciding. -/
def ofList (pairs : List (String × α)) : List (String × α) :=
  pairs.foldl (fun es p => put p.1 p.2 es) []

theorem mem_put_key {e : String × α} (h : e ∈ put k v es) : e.1 = k ∨ e ∈ es := by
  induction es with
  | nil => simp [put] at h; simp [h]
  | cons a es ih =>
    simp only [put] at h
    split at h
    · rcases List.mem_cons.mp h with rfl | h
      · exact .inl rfl
      · exact .inr h
    · split at h
      · rcases List.mem_cons.mp h with rfl | h
        · exact .inl rfl
        · exact .inr (List.mem_cons_of_mem _ h)
      · rcases List.mem_cons.mp h with rfl | h
        · exact .inr List.mem_cons_self
        · exact (ih h).imp id (List.mem_cons_of_mem _)

theorem Ascending.put (h : Ascending es) : Ascending (put k v es) := by
  induction es with
  | nil => simp [Entries.put, Ascending]
  | cons a es ih =>
    obtain ⟨ha, hes⟩ := List.pairwise_cons.mp h
    simp only [Entries.put]
    split
    · next hk =>
      refine List.pairwise_cons.mpr ⟨fun e he => ?_, h⟩
      rcases List.mem_cons.mp he with rfl | he
      · exact hk
      · exact String.lt_trans hk (ha e he)
    · split
      · next hk =>
        subst hk
        exact List.pairwise_cons.mpr ⟨ha, hes⟩
      · next hlt hne =>
        refine List.pairwise_cons.mpr ⟨fun e he => ?_, ih hes⟩
        rcases mem_put_key he with he | he
        · rw [he]
          by_cases hgt : a.1 < k
          · exact hgt
          · exact absurd (String.le_antisymm (String.not_lt.mp hgt) (String.not_lt.mp hlt)) hne
        · exact ha e he

theorem ascending_ofList (pairs : List (String × α)) : Ascending (ofList pairs) := by
  suffices h : ∀ es : List (String × α), Ascending es →
      Ascending (pairs.foldl (fun es p => put p.1 p.2 es) es) from h [] List.Pairwise.nil
  induction pairs with
  | nil => exact fun _ h => h
  | cons p pairs ih => exact fun es h => ih _ h.put

/-- What is put behind all keys stands at the end. -/
theorem put_of_forall_lt (h : ∀ e ∈ es, e.1 < k) : put k v es = es ++ [(k, v)] := by
  induction es with
  | nil => rfl
  | cons a es ih =>
    have ha := h a List.mem_cons_self
    have hne : k ≠ a.1 := by
      rintro rfl
      exact String.lt_irrefl a.1 ha
    rw [put, if_neg (String.lt_asymm ha), if_neg hne,
      ih fun e he => h e (List.mem_cons_of_mem _ he), List.cons_append]

/-- Ascending entries remain as they are when they are put one after the other. -/
theorem Ascending.ofList_eq (h : Ascending es) : ofList es = es := by
  suffices hfrom : ∀ before : List (String × α), Ascending (before ++ es) →
      es.foldl (fun es p => Entries.put p.1 p.2 es) before = before ++ es from hfrom [] h
  clear h
  induction es with
  | nil => exact fun before _ => (List.append_nil before).symm
  | cons e es ih =>
    intro before h
    have hlast : ∀ b ∈ before, b.1 < e.1 := fun b hb =>
      (List.pairwise_append.mp h).2.2 b hb e List.mem_cons_self
    rw [List.foldl_cons, put_of_forall_lt hlast, ih _ (by simpa using h), List.append_assoc,
      List.singleton_append]

theorem lookup_cons {e : String × α} :
    (e :: es).lookup l = if l = e.1 then some e.2 else es.lookup l := by
  obtain ⟨k, v⟩ := e
  by_cases h : l = k <;> simp [List.lookup_cons, h, beq_eq_false_iff_ne.mpr]

/-- What is under a key after a value was put: that value under its own key, elsewhere what was
there. -/
theorem lookup_put : (put k v es).lookup l = if l = k then some v else es.lookup l := by
  induction es with
  | nil => exact lookup_cons
  | cons a es ih =>
    simp only [put]
    split
    · exact lookup_cons
    · split
      · next hk => simp only [lookup_cons, hk]; split <;> rfl
      · next hne =>
        simp only [lookup_cons, ih]
        by_cases hla : l = a.1
        · simp [hla, Ne.symm hne]
        · simp [hla]

/-- What is under a key after the entries of a key were taken out. -/
theorem lookup_filter_ne :
    (es.filter (·.1 ≠ k)).lookup l = if l = k then none else es.lookup l := by
  induction es with
  | nil => simp
  | cons a es ih =>
    by_cases ha : a.1 = k
    · rw [List.filter_cons_of_neg (by simpa using ha), ih, lookup_cons]
      split
      · rfl
      · next hl => rw [if_neg (ha ▸ hl)]
    · rw [List.filter_cons_of_pos (by simpa using ha), lookup_cons, lookup_cons, ih]
      by_cases hla : l = a.1
      · rw [if_pos hla, if_pos hla, if_neg (hla ▸ ha)]
      · rw [if_neg hla, if_neg hla]

theorem lookup_eq_none (h : ∀ e ∈ es, k < e.1) : es.lookup k = none := by
  induction es with
  | nil => rfl
  | cons a es ih =>
    have hk : k ≠ a.1 := fun heq => String.lt_irrefl k (heq ▸ h a List.mem_cons_self)
    rw [lookup_cons, if_neg hk, ih fun e he => h e (List.mem_cons_of_mem _ he)]

/-- Ascending entries are determined by what stands under each key. -/
theorem Ascending.eq_of_lookup {fs : List (String × α)} (he : Ascending es) (hf : Ascending fs)
    (h : ∀ k, es.lookup k = fs.lookup k) : es = fs := by
  induction es generalizing fs with
  | nil =>
    cases fs with
    | nil => rfl
    | cons b fs => simpa [lookup_cons] using h b.1
  | cons a es ih =>
    cases fs with
    | nil => simpa [lookup_cons] using h a.1
    | cons b fs =>
      obtain ⟨ha, hes⟩ := List.pairwise_cons.mp he
      obtain ⟨hb, hfs⟩ := List.pairwise_cons.mp hf
      have hab : a.1 = b.1 := by
        refine String.le_antisymm (String.not_lt.mp fun hlt => ?_) (String.not_lt.mp fun hlt => ?_)
        · have hnone : (a :: es).lookup b.1 = none := lookup_eq_none fun e hm => by
            rcases List.mem_cons.mp hm with rfl | hm
            · exact hlt
            · exact String.lt_trans hlt (ha e hm)
          simp [h b.1, lookup_cons] at hnone
        · have hnone : (b :: fs).lookup a.1 = none := lookup_eq_none fun e hm => by
            rcases List.mem_cons.mp hm with rfl | hm
            · exact hlt
            · exact String.lt_trans hlt (hb e hm)
          simp [← h a.1, lookup_cons] at hnone
      have hval : a.2 = b.2 := by simpa [lookup_cons, hab] using h b.1
      refine congr (congrArg List.cons (Prod.ext hab hval)) (ih hes hfs fun k => ?_)
      by_cases hk : k = b.1
      · subst hk
        rw [lookup_eq_none hb, lookup_eq_none (hab ▸ ha)]
      · simpa [lookup_cons, hk, hab] using h k

end Entries

/-- Values under text keys, in ascending order of the keys. -/
structure Table (α : Type) where
  /-- The keys with their values. -/
  entries : List (String × α)
  /-- The keys ascend, so none stands twice. -/
  ascending : Entries.Ascending entries
deriving DecidableEq

namespace Table

variable {α : Type} {k l : String} {v : α} {t u : Table α}

/-- The table without entries. -/
def empty : Table α := ⟨[], List.Pairwise.nil⟩

/-- Puts a value under a key, in place of the one that was there. -/
def insert (t : Table α) (k : String) (v : α) : Table α :=
  ⟨Entries.put k v t.entries, t.ascending.put⟩

/-- The table of some pairs, the last pair of a key deciding. -/
def ofList (pairs : List (String × α)) : Table α :=
  ⟨Entries.ofList pairs, Entries.ascending_ofList pairs⟩

/-- The value under a key. -/
def get? (t : Table α) (k : String) : Option α := t.entries.lookup k

/-- Takes out what is under a key. -/
def erase (t : Table α) (k : String) : Table α :=
  ⟨t.entries.filter (·.1 ≠ k), t.ascending.filter _⟩

/-- The table of what becomes of the values, without those of which nothing does. -/
def filterMap {β : Type} (f : α → Option β) (t : Table α) : Table β :=
  ⟨t.entries.filterMap fun e => (f e.2).map fun b => (e.1, b), by
    refine List.Pairwise.filterMap _ (fun a a' h b hb b' hb' => ?_) t.ascending
    obtain ⟨_, _, rfl⟩ := Option.map_eq_some_iff.mp hb
    obtain ⟨_, _, rfl⟩ := Option.map_eq_some_iff.mp hb'
    exact h⟩

@[simp] theorem get?_empty : (empty : Table α).get? k = none := rfl

@[simp] theorem get?_insert : (t.insert k v).get? l = if l = k then some v else t.get? l :=
  Entries.lookup_put

@[simp] theorem get?_erase : (t.erase k).get? l = if l = k then none else t.get? l :=
  Entries.lookup_filter_ne

theorem get?_filterMap {β : Type} {f : α → Option β} :
    (t.filterMap f).get? k = (t.get? k).bind f := by
  obtain ⟨es, hes⟩ := t
  simp only [get?, filterMap]
  induction es with
  | nil => rfl
  | cons e es ih =>
    obtain ⟨he, hes⟩ := List.pairwise_cons.mp hes
    have hnone (hk : k = e.1) : es.lookup k = none := Entries.lookup_eq_none (hk ▸ he)
    rw [List.filterMap_cons]
    cases hf : f e.2 with
    | none =>
      by_cases hk : k = e.1
      · simp [Entries.lookup_cons, hk ▸ ih hes, hk ▸ hnone hk, hk, hf]
      · simp [Entries.lookup_cons, hk, ih hes]
    | some b =>
      by_cases hk : k = e.1
      · simp [Entries.lookup_cons, hk, hf]
      · simp [Entries.lookup_cons, hk, ih hes]

/-- Tables that hold the same value under every key are equal. -/
theorem ext_get? (h : ∀ k, t.get? k = u.get? k) : t = u := by
  cases t; cases u
  simpa only [mk.injEq] using Entries.Ascending.eq_of_lookup ‹_› ‹_› h

end Table

end StationFinder
