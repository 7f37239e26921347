import StationFinder.Proofs.Json.Numbers
import StationFinder.Proofs.Json.Sorted
import StationFinder.Proofs.Json.Structures
import StationFinder.Proofs.Outcome

/-!
# Proofs/Json/Nesting — how deep a value is, and that it is read back

A reader opens no more arrays and objects than it may, so what it reads is no deeper
(`fits_of_readAny`).  The other way round, a value of integers that is no deeper than the reader may
go is read back (`readAny_of_fits`); so the sorted text of any value of integers that was read from
a text can be read and written again and stays as it is (`sorted_text_again`).
-/

namespace StationFinder.Json

variable {α σ : Type} {depth : Nat} {v : Json}

/-- Everything that a reader takes from a text has a property. -/
def Yields (reader : Reader α) (p : α → Prop) : Prop := ∀ s a, reader s = .ok a → p a.value

/-- Every item has the property that the reader of items warrants. -/
theorem yields_items {item : Reader α} {p : α → Prop} (h : Yields item p) (first : Bool) :
    Yields (items item first) fun as => ∀ a ∈ as, p a := by
  intro s
  induction hn : s.length using Nat.strongRecOn generalizing s first with
  | ind n ih =>
    intro as has
    rw [items, bind_eq_ok_iff] at has
    obtain ⟨turn, -, has⟩ := has
    cases turn with
    | close rest hshorter =>
      obtain rfl := Except.ok.inj has
      exact List.forall_mem_nil _
    | more t hle =>
      simp only [bind_eq_ok_iff] at has
      obtain ⟨b, hb, bs, hbs, has⟩ := has
      obtain rfl := Except.ok.inj has
      have hshorter := b.shorter
      exact List.forall_mem_cons.mpr ⟨h t b hb, ih _ (by omega) false b.rest rfl bs hbs⟩

/-- **What every member preserves** holds of what is known of the whole object. -/
theorem yields_members {field : σ → String → Except Problem (Reader σ)} {p : σ → Prop}
    (h : ∀ known key value, p known → field known key = .ok value → Yields value p)
    {known : σ} (hknown : p known) (first : Bool) : Yields (members field first known) p := by
  intro s
  induction hn : s.length using Nat.strongRecOn generalizing s first known with
  | ind n ih =>
    intro a ha
    rw [members, bind_eq_ok_iff] at ha
    obtain ⟨turn, -, ha⟩ := ha
    cases turn with
    | close rest hshorter =>
      obtain rfl := Except.ok.inj ha
      exact hknown
    | more t hle =>
      simp only [bind_eq_ok_iff] at ha
      obtain ⟨key, -, value, hvalue, mark, -, b, hb, c, hc, ha⟩ := ha
      obtain rfl := Except.ok.inj ha
      have hkey := key.shorter
      have hmark := mark.shorter
      have hshorter := b.shorter
      have hfield := mapError_eq_ok_iff.mp hvalue
      exact ih _ (by omega) (h _ _ _ hknown hfield _ b hb) false b.rest rfl c hc

theorem yields_keptMembers {value : Reader Json} {p : Json → Prop} (h : Yields value p) :
    Yields (members (keepMember value) true []) fun ms => ∀ m ∈ ms, p m.2 := by
  refine yields_members (fun known key reader hknown hreader s a ha => ?_)
    (List.forall_mem_nil _) true
  obtain rfl := Except.ok.inj hreader
  obtain ⟨b, hb, rfl⟩ := map_eq_ok_iff.mp ha
  exact List.forall_mem_cons.mpr ⟨h s b hb, hknown⟩

/-- An object is one level deeper than the values of its members. -/
theorem yields_object {value : Reader Json} (h : Yields value (Fits depth)) :
    Yields (members (keepMember value) true []) fun ms => Fits (depth + 1) (object ms.reverse) :=
  fun s a ha => .object fun m hm => yields_keptMembers h s a ha m (List.mem_reverse.mp hm)

/-- **A value is no deeper than its reader goes.** -/
theorem fits_of_readAny (depth : Nat) : Yields (readAny depth) (Fits depth) := by
  induction depth using Nat.strongRecOn with
  | ind depth ih =>
    intro s a ha
    rw [readAny] at ha
    split at ha
    · cases ha
    · next c hnext =>
      simp only at ha
      -- the first character: of a word, a minus sign or a quote; a bracket; a brace; any other
      split at ha
      case h_1 | h_2 | h_3 | h_4 | h_5 =>
        obtain ⟨b, -, rfl⟩ := map_eq_ok_iff.mp ha
        constructor
      case h_6 =>
        cases depth with
        | zero => cases ha
        | succ depth =>
          obtain ⟨b, hb, rfl⟩ := map_eq_ok_iff.mp ha
          exact .array (yields_items (ih depth (Nat.lt_succ_self _)) true _ b hb)
      case h_7 =>
        cases depth with
        | zero => cases ha
        | succ depth =>
          obtain ⟨b, hb, rfl⟩ := map_eq_ok_iff.mp ha
          exact yields_object (ih depth (Nat.lt_succ_self _)) _ b hb
      case h_8 =>
        split at ha
        · obtain ⟨b, -, rfl⟩ := map_eq_ok_iff.mp ha
          exact .number _ _
        · cases ha

theorem fits_of_readMembers (depth : Nat) :
    Yields (readMembers depth) fun ms => Fits depth (object ms) := by
  intro s a ha
  rw [readMembers] at ha
  split at ha
  · cases ha
  · next c hnext =>
    split at ha
    · split at ha
      · cases ha
      · next depth =>
        obtain ⟨b, hb, rfl⟩ := map_eq_ok_iff.mp ha
        exact yields_object (fits_of_readAny depth) _ b hb
    · cases ha

/-- What a whole text stands for was read from its front. -/
theorem Yields.decode {decoder : Decoder α} {p : α → Prop} (h : Yields (decoder maxDepth) p)
    {text : String} {a : α} (ha : decode decoder text = .ok a) : p a := by
  obtain ⟨b, hb, hend⟩ := bind_eq_ok_iff.mp (mapError_eq_ok_iff.mp ha)
  split at hend
  · obtain rfl := Except.ok.inj hend
    exact h _ b hb
  · cases hend

/-! ## Values of integers -/

/-- **A value of integers is read back** by a reader that may go as deep as it is. -/
theorem readAny_of_fits (hv : IsWhole v) (h : Fits depth v) : ReadsBack (readAny depth) v v := by
  induction hv generalizing depth with
  | null => exact readAny_null depth
  | bool b => exact readAny_bool depth b
  | number low high => exact readAny_whole depth low high
  | string s => exact readAny_string depth s
  | array _ ih =>
    cases h with
    | array h => exact readAny_array fun v hv => ih v hv (h v hv)
  | object _ ih =>
    cases h with
    | object h => exact readAny_object fun m hm => ih m hm (h m hm)

/-- **The sorted text of a value of integers stays as it is** when it is read and written again. -/
theorem sorted_text_again (hv : IsWhole v) (h : Fits depth v) :
    ReadsBack (readAny depth) v.sorted v.sorted ∧ v.sorted.sorted.text = v.sorted.text :=
  ⟨readAny_of_fits hv.sorted h.sorted, by rw [sorted_sorted]⟩

end StationFinder.Json
