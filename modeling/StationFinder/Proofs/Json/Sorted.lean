import StationFinder.Json.Value
import StationFinder.Proofs.Table

/-!
# Proofs/Json/Sorted — the sorted form of a value

Sorting goes through a value of any depth, so it is described level by level: items stay where they
are (`sorted_array`), and of the members of an object the last of each key remains, in ascending
order (`sorted_object`).  A sorted value stays as it is (`sorted_sorted`), and values that differ
only in the order of members with different keys have one sorted form (`Reordered.sorted_eq`).
-/

namespace StationFinder.Json

variable {v w : Json} {ms : List (String × Json)}

/-- What holds of a value as soon as it holds of all that it contains holds of every value. -/
@[elab_as_elim]
theorem induction {motive : Json → Prop} (null : motive .null) (bool : ∀ b, motive (.bool b))
    (number : ∀ n, motive (.number n)) (string : ∀ s, motive (.string s))
    (array : ∀ vs, (∀ v ∈ vs, motive v) → motive (.array vs))
    (object : ∀ ms, (∀ m ∈ ms, motive m.2) → motive (.object ms)) : ∀ v, motive v
  | .null => null
  | .bool b => bool b
  | .number n => number n
  | .string s => string s
  | .array vs => array vs fun v _ => induction null bool number string array object v
  | .object ms => object ms fun m _ => induction null bool number string array object m.2
decreasing_by
  · exact Nat.lt_trans (List.sizeOf_lt_of_mem ‹_›) (by simp)
  · have hmem : sizeOf m < sizeOf ms := List.sizeOf_lt_of_mem ‹_›
    have hsnd : sizeOf m.2 < sizeOf m := by
      obtain ⟨k, v⟩ := m
      simp only [Prod.mk.sizeOf_spec]
      omega
    simp only [Json.object.sizeOf_spec]
    omega

/-! ## One level -/

theorem sorted_array (vs : List Json) : (array vs).sorted = array (vs.map sorted) := by
  rw [sorted, sortedItems_eq_map]

theorem sorted_object (ms : List (String × Json)) :
    (object ms).sorted = object (Entries.ofList (ms.map fun m => (m.1, m.2.sorted))) := by
  rw [sorted, sortedMembers_eq_map]

/-- How a value is sorted, level by level. -/
structure SortsLevels (sort : Json → Json) : Prop where
  null : sort .null = .null
  bool (b : Bool) : sort (.bool b) = .bool b
  number (n : Number) : sort (.number n) = .number n
  string (s : String) : sort (.string s) = .string s
  /-- Items stay where they are. -/
  array (vs : List Json) : sort (.array vs) = .array (vs.map sort)
  /-- The last member of each key remains, in strictly ascending order of the keys. -/
  object (ms : List (String × Json)) : ∃ es, sort (.object ms) = .object es
    ∧ (es.Pairwise fun a b => a.1 < b.1)
    ∧ ∀ k w, (k, w) ∈ es ↔ ∃ v, Entries.last? ms k = some v ∧ sort v = w

theorem sortsLevels_sorted : SortsLevels sorted where
  null := by rw [sorted]
  bool _ := by rw [sorted]
  number _ := by rw [sorted]
  string _ := by rw [sorted]
  array := sorted_array
  object ms := by
    refine ⟨_, sorted_object ms, Entries.ascending_ofList _, fun k w => ?_⟩
    rw [Entries.mem_ofList_iff, Entries.last?_map, Option.map_eq_some_iff]

/-- What is true of all sorted members is true of those that remain. -/
theorem forall_mem_ofList_sorted {p : Json → Prop} (h : ∀ m ∈ ms, p m.2.sorted) :
    ∀ e ∈ Entries.ofList (ms.map fun m => (m.1, m.2.sorted)), p e.2 := by
  intro e he
  obtain ⟨m, hm, rfl⟩ := List.mem_map.mp (Entries.mem_of_mem_ofList he)
  exact h m hm

/-- **A sorted value stays as it is.** -/
theorem sorted_sorted (v : Json) : v.sorted.sorted = v.sorted := by
  induction v using Json.induction with
  | null | bool | number | string => simp only [sorted]
  | array vs ih =>
    rw [sorted_array, sorted_array, List.map_map]
    exact congrArg array (List.map_congr_left ih)
  | object ms ih =>
    rw [sorted_object, sorted_object]
    have hkept := forall_mem_ofList_sorted (p := fun v => v.sorted = v) ih
    have hsame := List.map_congr_left fun e he => congrArg (Prod.mk e.1) (hkept e he)
    rw [hsame, List.map_id', (Entries.ascending_ofList _).ofList_eq]

/-! ## Reordering -/

/-- Values that differ only in the order of members with different keys, at any depth. -/
inductive Reordered : Json → Json → Prop
  | refl (v : Json) : Reordered v v
  | trans {u v w : Json} : Reordered u v → Reordered v w → Reordered u w
  /-- The members of each key stand in the same order. -/
  | members {ms ms' : List (String × Json)}
      (h : ∀ k, ms.filter (·.1 = k) = ms'.filter (·.1 = k)) : Reordered (object ms) (object ms')
  | item {v w : Json} (before after : List Json) :
      Reordered v w → Reordered (array (before ++ v :: after)) (array (before ++ w :: after))
  | member {v w : Json} (key : String) (before after : List (String × Json)) :
      Reordered v w →
        Reordered (object (before ++ (key, v) :: after)) (object (before ++ (key, w) :: after))

/-- **The order of members with different keys does not show** in the sorted value. -/
theorem Reordered.sorted_eq (h : Reordered v w) : v.sorted = w.sorted := by
  induction h with
  | refl => rfl
  | trans _ _ ihv ihw => exact ihv.trans ihw
  | members h =>
    rw [sorted_object, sorted_object]
    refine congrArg object (Entries.ofList_eq_iff.mpr fun k => ?_)
    rw [Entries.last?_map, Entries.last?_map, Entries.last?, h, Entries.last?]
  | item before after _ ih => simp only [sorted_array, List.map_append, List.map_cons, ih]
  | member key before after _ ih => simp only [sorted_object, List.map_append, List.map_cons, ih]

/-! ## Integers and nesting -/

/-- All numbers of a value are integers of 64 bits, signed or unsigned. -/
inductive IsWhole : Json → Prop
  | null : IsWhole null
  | bool (b : Bool) : IsWhole (bool b)
  | number {n : Int} (low : -Nat.pow 2 63 ≤ n) (high : n < Nat.pow 2 64) :
      IsWhole (number (.whole n))
  | string (s : String) : IsWhole (string s)
  | array {vs : List Json} (h : ∀ v ∈ vs, IsWhole v) : IsWhole (array vs)
  | object {ms : List (String × Json)} (h : ∀ m ∈ ms, IsWhole m.2) : IsWhole (object ms)

theorem IsWhole.sorted (h : IsWhole v) : IsWhole v.sorted := by
  induction h with
  | null | bool | string => simp only [Json.sorted]; constructor
  | number low high => simpa only [Json.sorted] using .number low high
  | array _ ih =>
    rw [sorted_array]
    exact .array (List.forall_mem_map.mpr ih)
  | object _ ih =>
    rw [sorted_object]
    exact .object (forall_mem_ofList_sorted ih)

/-- No more than so many arrays and objects of a value are open at once. -/
inductive Fits : Nat → Json → Prop
  | null (depth : Nat) : Fits depth null
  | bool (depth : Nat) (b : Bool) : Fits depth (bool b)
  | number (depth : Nat) (n : Number) : Fits depth (number n)
  | string (depth : Nat) (s : String) : Fits depth (string s)
  | array {depth : Nat} {vs : List Json} (h : ∀ v ∈ vs, Fits depth v) : Fits (depth + 1) (array vs)
  | object {depth : Nat} {ms : List (String × Json)} (h : ∀ m ∈ ms, Fits depth m.2) :
      Fits (depth + 1) (object ms)

variable {depth depth' : Nat}

theorem Fits.mono (h : Fits depth v) (hle : depth ≤ depth') : Fits depth' v := by
  induction h generalizing depth' with
  | null | bool | number | string => constructor
  | array _ ih =>
    obtain ⟨d, rfl⟩ := Nat.exists_eq_add_of_lt hle
    exact .array fun v hv => ih v hv (by omega)
  | object _ ih =>
    obtain ⟨d, rfl⟩ := Nat.exists_eq_add_of_lt hle
    exact .object fun m hm => ih m hm (by omega)

/-- Whatever fits, each at its own depth, fits at a common one. -/
theorem exists_fits_of_forall {α : Type} {as : List α} {f : α → Json}
    (h : ∀ a ∈ as, ∃ depth, Fits depth (f a)) : ∃ depth, ∀ a ∈ as, Fits depth (f a) := by
  induction as with
  | nil => exact ⟨0, nofun⟩
  | cons a as ih =>
    obtain ⟨⟨d, ha⟩, has⟩ := List.forall_mem_cons.mp h
    obtain ⟨d', has⟩ := ih has
    exact ⟨max d d', List.forall_mem_cons.mpr
      ⟨ha.mono (Nat.le_max_left d d'), fun b hb => (has b hb).mono (Nat.le_max_right d d')⟩⟩

/-- Every value has some depth. -/
theorem exists_fits (v : Json) : ∃ depth, Fits depth v := by
  induction v using Json.induction with
  | null => exact ⟨0, .null 0⟩
  | bool b => exact ⟨0, .bool 0 b⟩
  | number n => exact ⟨0, .number 0 n⟩
  | string s => exact ⟨0, .string 0 s⟩
  | array vs ih =>
    obtain ⟨depth, h⟩ := exists_fits_of_forall ih
    exact ⟨depth + 1, .array h⟩
  | object ms ih =>
    obtain ⟨depth, h⟩ := exists_fits_of_forall ih
    exact ⟨depth + 1, .object h⟩

theorem Fits.sorted (h : Fits depth v) : Fits depth v.sorted := by
  induction h with
  | null | bool | number | string => simp only [Json.sorted]; constructor
  | array _ ih =>
    rw [sorted_array]
    exact .array (List.forall_mem_map.mpr ih)
  | object _ ih =>
    rw [sorted_object]
    exact .object (forall_mem_ofList_sorted ih)

end StationFinder.Json
