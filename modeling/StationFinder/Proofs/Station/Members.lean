import StationFinder.Proofs.Json.Nesting
import StationFinder.Station

/-!
# Proofs/Station/Members — a record means what the members of its object say

A record is made from members in any order, whose keys may stand more than once.  Under each key it
holds what the last of its members says (`Means`), so it depends on nothing of the object but its
sorted form (`ofMembers_congr`).  A text that it holds for a value of integers can be read and
written again and stays as it is (`reads_stored`).
-/

namespace StationFinder

open Json

/-! ## No text is empty -/

theorem Decimal.Layout.write_ne_nil (layout : Decimal.Layout) (d : Decimal.Scaled) :
    layout.write d ≠ [] := by
  rw [Decimal.Layout.write]
  split_ifs <;> simp

theorem Json.Number.write_ne_nil (n : Json.Number) : n.write ≠ [] := by
  cases n with
  | whole n =>
    rw [Json.Number.write]
    split_ifs
    · exact List.cons_ne_nil _ _
    · exact Text.Numeral.write_ne_nil _
  | double x =>
    rw [Json.Number.write, Decimal.Layout.writeFloat]
    split_ifs
    · exact List.cons_ne_nil _ _
    · exact Decimal.Layout.write_ne_nil _ _

theorem Json.text_ne_empty (v : Json) : v.text ≠ "" := by
  have hwrite : v.write ≠ [] := by
    cases v with
    | bool b => cases b <;> simp [Json.write]
    | number n => exact n.write_ne_nil
    | _ => simp [Json.write, writeString]
  intro h
  exact hwrite (by simpa [Json.text] using congrArg String.toList h)

namespace Station

variable {ms ms' : List (String × Json)} {k s : String} {v : Json}

/-! ## The text of a value -/

/-- A value that a record writes down: neither `null` nor a string. -/
def IsStored (v : Json) : Prop := v ≠ .null ∧ ∀ s, v ≠ .string s

theorem null_or_string_or_isStored (v : Json) :
    v = .null ∨ (∃ s, v = .string s) ∨ IsStored v := by
  cases v <;> simp [IsStored]

theorem IsStored.sorted (h : IsStored v) : IsStored v.sorted := by
  cases v with
  | null => exact absurd rfl h.1
  | string s => exact absurd rfl (h.2 s)
  | _ => simp [IsStored, Json.sorted]

theorem IsStored.fieldText? (h : IsStored v) : fieldText? v = some v.sorted.text := by
  cases v with
  | null => exact absurd rfl h.1
  | string s => exact absurd rfl (h.2 s)
  | _ => rfl

/-- A value has the text of its sorted form. -/
theorem fieldText?_sorted (v : Json) : fieldText? v.sorted = fieldText? v := by
  obtain rfl | ⟨s, rfl⟩ | h := null_or_string_or_isStored v
  · simp only [sorted]
  · simp only [sorted]
  · rw [h.fieldText?, h.sorted.fieldText?, sorted_sorted]

theorem exists_fieldText? (hv : v ≠ .null) : ∃ s, fieldText? v = some s := by
  obtain rfl | ⟨s, rfl⟩ | h := null_or_string_or_isStored v
  · exact absurd rfl hv
  · exact ⟨s, rfl⟩
  · exact ⟨_, h.fieldText?⟩

/-- Only the empty string has no text to show. -/
theorem fieldText?_eq_empty : fieldText? v = some "" ↔ v = .string "" := by
  obtain rfl | ⟨s, rfl⟩ | h := null_or_string_or_isStored v
  · simp [fieldText?]
  · simp [fieldText?]
  · simp [h.fieldText?, v.sorted.text_ne_empty, h.2]

/-! ## The members of an object -/

theorem field?_ofMembers (ms : List (String × Json)) (k : String) :
    (ofMembers ms).field? k = (Entries.last? ms k).bind fieldText? := by
  rw [← Entries.lookup_ofList]
  exact Table.get?_filterMap

/-- **A record depends on the sorted form of the object only.** -/
theorem ofMembers_congr (h : (object ms).sorted = (object ms').sorted) :
    ofMembers ms = ofMembers ms' := by
  rw [sorted_object, sorted_object, object.injEq, Entries.ofList_eq_iff] at h
  have hfield (ms : List (String × Json)) (k : String) : (ofMembers ms).field? k
      = (Entries.last? (ms.map fun m => (m.1, m.2.sorted)) k).bind fieldText? := by
    rw [field?_ofMembers, Entries.last?_map, Option.bind_map]
    exact congrArg _ (funext fun v => (fieldText?_sorted v).symm)
  have heq (k : String) : (ofMembers ms).field? k = (ofMembers ms').field? k := by
    rw [hfield, hfield, h]
  exact congrArg Station.mk (Table.ext_get? heq)

/-- A record means what the members of an object say. -/
structure Means (station : Station) (ms : List (String × Json)) : Prop where
  /-- A field is there exactly if the last member of its name is not `null`. -/
  isSome_iff (k : String) : (station.field? k).isSome ↔ ∃ v, Entries.last? ms k = some v ∧ v ≠ .null
  /-- A string is the field itself. -/
  of_string {k s : String} (h : Entries.last? ms k = some (.string s)) : station.field? k = some s
  /-- Of another value the field is the text of the sorted form. -/
  of_stored {k : String} {v : Json} (h : Entries.last? ms k = some v) (hv : IsStored v) :
    station.field? k = some v.sorted.text
  /-- The fields are listed in strictly ascending order of their names. -/
  ascending : station.fields.entries.Pairwise fun a b => a.1 < b.1
  mem_entries_iff (k s : String) : (k, s) ∈ station.fields.entries ↔ station.field? k = some s
  /-- A fuel is sold exactly if the last member of its key is neither `null` nor empty. -/
  sells_iff (k : String) :
    station.sells k = true ↔ ∃ v, Entries.last? ms k = some v ∧ v ≠ .null ∧ v ≠ .string ""

theorem means_ofMembers (ms : List (String × Json)) : Means (ofMembers ms) ms where
  isSome_iff k := by
    rw [field?_ofMembers]
    cases Entries.last? ms k with
    | none => simp
    | some v => cases v <;> simp [fieldText?]
  of_string h := by rw [field?_ofMembers, h]; rfl
  of_stored h hv := by rw [field?_ofMembers, h, Option.bind_some, hv.fieldText?]
  ascending := (ofMembers ms).fields.ascending
  mem_entries_iff _ _ := (ofMembers ms).fields.ascending.mem_iff_lookup
  sells_iff k := by
    rw [Station.sells_iff, field?_ofMembers]
    cases Entries.last? ms k with
    | none => simp
    | some v =>
      simp only [Option.bind_some, Option.some.injEq, exists_eq_left']
      constructor
      · rintro ⟨s, hs, hne⟩
        refine ⟨?_, ?_⟩
        · rintro rfl
          cases hs
        · rintro rfl
          exact hne (Option.some.inj hs).symm
      · rintro ⟨hnull, hempty⟩
        obtain ⟨s, hs⟩ := exists_fieldText? hnull
        refine ⟨s, hs, ?_⟩
        rintro rfl
        exact hempty (fieldText?_eq_empty.mp hs)

/-! ## Reading -/

theorem readWhole_decoder (s : List Char) :
    readWhole decoder s = (readWhole readMembers s).map ofMembers := by
  simp only [readWhole, decoder]
  cases readMembers maxDepth s with
  | error e => rfl
  | ok a =>
    simp only [Except.map, Scan.map, bind, Except.bind]
    split <;> rfl

/-- A record is what the members of its text make. -/
theorem decode_decoder (text : String) :
    decode decoder text = (decode readMembers text).map ofMembers := by
  rw [decode, decode, readWhole_decoder]
  cases readWhole readMembers text.toList <;> rfl

/-- **The text that is held for a value of integers is final**: a reader that goes as deep as the
value takes all of it, and what it takes has this text. -/
theorem reads_stored {depth : Nat} (hwhole : IsWhole v) (hfits : Fits depth v) :
    ∃ w, Leaves (readAny depth) v.sorted.text.toList w [] ∧ w.sorted.text = v.sorted.text := by
  obtain ⟨hreads, htext⟩ := sorted_text_again hwhole hfits
  exact ⟨v.sorted, hreads.leaves_text, htext⟩

/-- A value behind a key of a text is less deep than a text may be. -/
theorem fits_of_decode {text : String} (h : decode readMembers text = .ok ms)
    (hv : Entries.last? ms k = some v) : Fits 126 v := by
  cases (fits_of_readMembers maxDepth).decode h with
  | object hms => exact hms _ (Entries.mem_of_last? hv)

/-- **A record means what its JSON says.**  It is made of the members that its text has, in their
order, and says of each key what the last member of that key says; a value that is no string is
held as its text with the members of every object sorted, the last one of a key remaining.  Members
with different keys may change places, at any depth.  The text of a value of integers is final: when
it is read and written again it is the same, by any reader that goes deep enough, and `decode` goes
deep enough for all that was read from a text. -/
theorem records_mean_members :
    (∀ text, decode decoder text = (decode readMembers text).map ofMembers)
      ∧ (∀ ms, (∀ m ∈ ms, IsWhole m.2 ∧ Fits 126 m.2) →
        decode readMembers (object ms).text = .ok ms)
      ∧ (∀ ms, Means (ofMembers ms) ms)
      ∧ SortsLevels sorted
      ∧ (∀ ms ms' : List (String × Json), (ms.map (·.1)).Nodup → ms.Perm ms' →
        ofMembers ms = ofMembers ms')
      ∧ (∀ ms ms', Reordered (object ms) (object ms') → ofMembers ms = ofMembers ms')
      ∧ (∀ ms k v, Entries.last? ms k = some v → IsStored v → IsWhole v →
        ∃ stored, (ofMembers ms).field? k = some stored ∧ (∃ depth, Fits depth v)
          ∧ ∀ depth, Fits depth v →
            ∃ w, Leaves (readAny depth) stored.toList w [] ∧ w.sorted.text = stored)
      ∧ ∀ text ms k v, decode readMembers text = .ok ms → Entries.last? ms k = some v →
        IsStored v → IsWhole v →
          ∃ stored w, (ofMembers ms).field? k = some stored ∧ decode readAny stored = .ok w
            ∧ w.sorted.text = stored := by
  refine ⟨decode_decoder, fun ms hms => ?_, means_ofMembers, sortsLevels_sorted,
    fun ms ms' hkeys hperm => ?_, fun _ _ h => ofMembers_congr h.sorted_eq,
    fun ms k v hv hstored hwhole => ?_, fun text ms k v hms hv hstored hwhole => ?_⟩
  · exact decode_text (readMembers_object fun m hm => readAny_of_fits (hms m hm).1 (hms m hm).2)
  · exact ofMembers_congr (Reordered.members (Entries.filter_perm hkeys hperm)).sorted_eq
  · exact ⟨_, (means_ofMembers ms).of_stored hv hstored, exists_fits v,
      fun depth hfits => reads_stored hwhole hfits⟩
  · have hfits : Fits maxDepth v := (fits_of_decode hms hv).mono (by decide)
    obtain ⟨hreads, htext⟩ := sorted_text_again hwhole hfits
    exact ⟨_, v.sorted, (means_ofMembers ms).of_stored hv hstored, decode_text hreads, htext⟩

/-- A key that stands twice and ends with `null`, and an object whose keys are out of order. -/
theorem records_mean_repeated_members :
    let value (first second : String × Json) : Json :=
      .array [.number (.whole 2), .object [("y", .null), first, second]]
    let ms (b : Json) : List (String × Json) :=
      [("a", .string "1,5"), ("b", b), ("c", .string ""), ("a", .null)]
    let x := ("x", Json.bool true)
    let y := ("y", Json.number (.whole (-3)))
    let station := ofMembers (ms (value x y))
    let stored := "[2,\x7b\"x\":true,\"y\":-3\x7d]"
    decode decoder (Json.object (ms (value x y))).text = .ok station
      ∧ station.field? "a" = none
      ∧ station.sells "c" = false
      ∧ station.field? "b" = some stored
      ∧ (∃ w, decode readAny stored = .ok w ∧ w.sorted.text = stored)
      ∧ station = ofMembers (ms (value y x))
      ∧ ofMembers [x, y] = ofMembers [y, x] := by
  intro value ms x y station stored
  obtain ⟨hdecoder, hread, hmeans, -, hperm, hreordered, -, hagain⟩ := records_mean_members
  have hinner : IsWhole (value x y) ∧ Fits 126 (value x y) := by
    refine ⟨.array (List.forall_mem_cons.mpr ⟨.number (by decide) (by decide), ?_⟩),
      .array (List.forall_mem_cons.mpr ⟨.number _ _, ?_⟩)⟩
    · refine List.forall_mem_singleton.mpr (.object ?_)
      simp only [List.forall_mem_cons]
      exact ⟨.null, .bool true, .number (by decide) (by decide), nofun⟩
    · refine List.forall_mem_singleton.mpr (.object ?_)
      simp only [List.forall_mem_cons]
      exact ⟨.null _, .bool _ _, .number _ _, nofun⟩
  have hms : decode readMembers (Json.object (ms (value x y))).text = .ok (ms (value x y)) := by
    refine hread _ ?_
    simp only [ms, List.forall_mem_cons]
    exact ⟨⟨.string _, .string _ _⟩, hinner, ⟨.string _, .string _ _⟩, ⟨.null, .null _⟩, nofun⟩
  have hb : Entries.last? (ms (value x y)) "b" = some (value x y) := rfl
  have hstored : IsStored (value x y) := ⟨nofun, nofun⟩
  have htext : (value x y).sorted.text = stored := by decide +kernel
  have hfield : station.field? "b" = some stored := htext ▸ (hmeans _).of_stored hb hstored
  refine ⟨by rw [hdecoder, hms]; rfl, ?_, ?_, hfield, ?_, hreordered _ _ ?_, ?_⟩
  · refine Option.not_isSome_iff_eq_none.mp fun h => ?_
    obtain ⟨v, hv, hnull⟩ := ((hmeans _).isSome_iff "a").mp h
    exact hnull (Option.some.inj hv).symm
  · refine Bool.eq_false_iff.mpr fun h => ?_
    obtain ⟨v, hv, -, hempty⟩ := ((hmeans _).sells_iff "c").mp h
    exact hempty (Option.some.inj hv).symm
  · obtain ⟨stored', w, hfield', hw⟩ := hagain _ _ _ _ hms hb hstored hinner.1
    obtain rfl : stored = stored' := Option.some.inj (hfield.symm.trans hfield')
    exact ⟨w, hw⟩
  · refine .member "b" [_] [_, _] (.item [_] [] (.members fun k => ?_))
    by_cases hk : k = "x"
    · subst hk; rfl
    · simp [x, List.filter_cons, Ne.symm hk]
  · exact hperm _ _ (by decide) (.swap _ _ _)

end Station

end StationFinder
