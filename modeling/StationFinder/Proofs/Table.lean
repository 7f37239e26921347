import StationFinder.Table
import Mathlib.Data.List.Induction

/-!
# Proofs/Table — which of the values that are put under a key stays there

A table of pairs holds under a key the value of the last pair with that key
(`Entries.lookup_ofList`), and nothing else of the pairs counts (`Entries.ofList_eq_iff`).  Where no
key stands twice, pairs in another order have the same last pairs (`Entries.filter_perm`).
-/

namespace StationFinder.Entries

variable {α β : Type} {k : String} {v : α} {e : String × α} {es pairs pairs' : List (String × α)}

/-- The value of the last pair with a key. -/
def last? (pairs : List (String × α)) (key : String) : Option α :=
  (pairs.filter (·.1 = key)).getLast?.map (·.2)

theorem last?_append_singleton :
    last? (pairs ++ [e]) k = if k = e.1 then some e.2 else last? pairs k := by
  by_cases h : e.1 = k
  · simp [last?, h]
  · simp [last?, h, Ne.symm h]

/-- **The last pair of a key decides** what the entries hold under it. -/
theorem lookup_ofList (pairs : List (String × α)) (k : String) :
    (ofList pairs).lookup k = last? pairs k := by
  induction pairs using List.reverseRecOn with
  | nil => rfl
  | append_singleton pairs e ih =>
    have hput : ofList (pairs ++ [e]) = put e.1 e.2 (ofList pairs) := by
      rw [ofList, List.foldl_append]
      rfl
    rw [hput, lookup_put, ih, last?_append_singleton]

theorem mem_of_last? (h : last? pairs k = some v) : (k, v) ∈ pairs := by
  obtain ⟨⟨k', v'⟩, hlast, rfl⟩ := Option.map_eq_some_iff.mp h
  obtain ⟨hmem, hkey⟩ := List.mem_filter.mp (List.mem_of_getLast? hlast)
  obtain rfl : k' = k := of_decide_eq_true hkey
  exact hmem

theorem last?_map (f : α → β) :
    last? (pairs.map fun e => (e.1, f e.2)) k = (last? pairs k).map f := by
  simp only [last?, List.filter_map, List.getLast?_map, Option.map_map]
  rfl

/-! ## Entries by their keys -/

theorem Ascending.mem_iff_lookup (h : Ascending es) : (k, v) ∈ es ↔ es.lookup k = some v := by
  induction es with
  | nil => simp
  | cons e es ih =>
    obtain ⟨he, hes⟩ := List.pairwise_cons.mp h
    rw [List.mem_cons, lookup_cons, ih hes]
    by_cases hk : k = e.1
    · subst hk
      rw [if_pos rfl, lookup_eq_none he]
      simp [Prod.ext_iff, eq_comm]
    · rw [if_neg hk]
      simp [Prod.ext_iff, hk]

theorem mem_ofList_iff : (k, v) ∈ ofList pairs ↔ last? pairs k = some v := by
  rw [(ascending_ofList pairs).mem_iff_lookup, lookup_ofList]

theorem mem_of_mem_ofList (h : e ∈ ofList pairs) : e ∈ pairs := mem_of_last? (mem_ofList_iff.mp h)

/-! ## The order of the pairs -/

/-- **Only the last pair of each key counts.** -/
theorem ofList_eq_iff :
    ofList pairs = ofList pairs' ↔ ∀ k, last? pairs k = last? pairs' k := by
  refine ⟨fun h k => by rw [← lookup_ofList, h, lookup_ofList], fun h => ?_⟩
  refine (ascending_ofList pairs).eq_of_lookup (ascending_ofList pairs') fun k => ?_
  rw [lookup_ofList, lookup_ofList, h]

/-- Where no key stands twice, the pairs of each key stand in the same order in every order. -/
theorem filter_perm (hkeys : (pairs.map (·.1)).Nodup) (h : pairs.Perm pairs') (k : String) :
    pairs.filter (·.1 = k) = pairs'.filter (·.1 = k) := by
  have hkey {ps : List (String × α)} {e : String × α} (he : e ∈ ps.filter (·.1 = k)) : e.1 = k :=
    of_decide_eq_true (List.mem_filter.mp he).2
  have hkeys' : (pairs'.map (·.1)).Nodup := (h.map _).nodup_iff.mp hkeys
  -- no two pairs of the key stand on either side, so nothing is left to be out of order
  exact List.Perm.eq_of_pairwise (fun a b ha hb hne => absurd ((hkey ha).trans (hkey hb).symm) hne)
    ((List.pairwise_map.mp hkeys).filter _) ((List.pairwise_map.mp hkeys').filter _) (h.filter _)

end StationFinder.Entries
