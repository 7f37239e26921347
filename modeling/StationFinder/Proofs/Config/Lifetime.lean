import StationFinder.Proofs.Source.Ask
import StationFinder.Proofs.Text.Digits
import StationFinder.Proofs.Text.Padding

/-!
# Proofs/Config/Lifetime — for how long listings are to be kept

A number of seconds is set by a text of digits, and every number of 64 bits is taken as it is
(`seconds?_eq_some_iff`); all else that stands there counts for nothing.  The cache, however, keeps
listings for a thousand years at most.  So there are settings without a fault that no cache can be
made for, and they are exactly those with a number of seconds in between (`cache_of_settings`).
-/

namespace StationFinder.Config

open Text.Numeral (Denotes)

variable {lookup : Lookup} {key : String} {n : Nat}

/-- A variable is set to a number of seconds: the number stands there in digits, with a plus sign in
front or without one, and with blanks around it or none. -/
def SetsSeconds (lookup : Lookup) (key : String) (n : Nat) : Prop :=
  ∃ text digits, lookup key = some text ∧ Denotes digits n
    ∧ (Text.IsPadded digits text.toList ∨ Text.IsPadded ('+' :: digits) text.toList)

theorem parseSeconds?_eq_some_iff {s : String} : parseSeconds? s = some n
    ↔ n ≤ maxSeconds
      ∧ ∃ digits, Denotes digits n ∧ (s.toList = digits ∨ s.toList = '+' :: digits) := by
  rw [parseSeconds?, Option.filter_eq_some_iff, decide_eq_true_iff, and_comm]
  refine and_congr_right fun _ => ?_
  rw [Text.Numeral.value?_eq_some_iff]
  split
  · next digits hs =>
    refine ⟨fun h => ⟨digits, h, .inr hs⟩, ?_⟩
    rintro ⟨digits', hdigits, heq | heq⟩
    · -- a plus sign is no digit
      have hplus : '+' ∈ digits' := heq ▸ hs ▸ List.mem_cons_self
      obtain ⟨d, hd, hchar⟩ := hdigits.exists_digit hplus
      have hne : ∀ d < 10, '+' ≠ Text.Numeral.digitChar d := by decide
      exact absurd hchar (hne d hd)
    · rw [hs] at heq
      exact (List.cons.inj heq).2 ▸ hdigits
  · next hs =>
    refine ⟨fun h => ⟨_, h, .inl rfl⟩, ?_⟩
    rintro ⟨digits, hdigits, heq | heq⟩
    · exact heq ▸ hdigits
    · exact absurd heq (hs digits)

theorem value?_eq_some_iff {value : String} : value? lookup key = some value
    ↔ ∃ text, lookup key = some text ∧ Text.trimmed text = value ∧ value ≠ "" := by
  rw [value?, Option.bind_eq_some_iff]
  exact exists_congr fun text => and_congr_right fun _ => Text.nonBlank_eq_some_iff

/-- Digits, and digits behind a plus sign, have no blanks at their ends. -/
theorem trim_digits {digits core : List Char} (h : Denotes digits n)
    (hcore : core = digits ∨ core = '+' :: digits) : Text.trim core = core := by
  have hdigits : ∀ c ∈ digits, Text.isBlank c = false := by
    intro c hc
    obtain ⟨d, hd, rfl⟩ := h.exists_digit hc
    exact Text.Numeral.isBlank_of_isDigit (Text.Numeral.isDigit_digitChar hd)
  refine Text.trim_of_forall ?_
  rcases hcore with rfl | rfl
  · exact hdigits
  · exact List.forall_mem_cons.mpr ⟨by decide, hdigits⟩

/-- **The number that a variable is set to is read**, if it has no more than 64 bits, and nothing
else is taken for one. -/
theorem seconds?_eq_some_iff : (value? lookup key).bind parseSeconds? = some n
    ↔ SetsSeconds lookup key n ∧ n ≤ maxSeconds := by
  rw [Option.bind_eq_some_iff]
  constructor
  · rintro ⟨value, hvalue, hseconds⟩
    obtain ⟨text, hlookup, rfl, -⟩ := value?_eq_some_iff.mp hvalue
    obtain ⟨hle, digits, hdigits, hcore⟩ := parseSeconds?_eq_some_iff.mp hseconds
    rw [Text.trimmed, String.toList_ofList] at hcore
    have hpadded := Text.isPadded_trim text.toList
    refine ⟨⟨text, digits, hlookup, hdigits, ?_⟩, hle⟩
    rcases hcore with h | h
    · exact .inl (h ▸ hpadded)
    · exact .inr (h ▸ hpadded)
  · rintro ⟨⟨text, digits, hlookup, hdigits, hpadded⟩, hle⟩
    obtain ⟨core, hcore, hcorePadded⟩ : ∃ core, (core = digits ∨ core = '+' :: digits)
        ∧ Text.IsPadded core text.toList :=
      hpadded.elim (fun h => ⟨_, .inl rfl, h⟩) fun h => ⟨_, .inr rfl, h⟩
    have htrim : Text.trim text.toList = core :=
      (Text.trim_eq_iff_isPadded (trim_digits hdigits hcore)).mpr hcorePadded
    have hne : core ≠ [] := by
      obtain ⟨ds, hds, -, rfl, -⟩ := hdigits
      rcases hcore with rfl | rfl <;> simp [hds]
    refine ⟨String.ofList core, value?_eq_some_iff.mpr ⟨text, hlookup, ?_, ?_⟩,
      parseSeconds?_eq_some_iff.mpr ⟨hle, digits, hdigits, ?_⟩⟩
    · rw [Text.trimmed, htrim]
    · simpa using hne
    · rwa [String.toList_ofList]

/-- The cache keeps listings for a thousand years at most. -/
theorem maxTtl_lt_nanoseconds_iff : Cache.maxTtl < nanoseconds n ↔ 31536000000 < n := by
  rw [Cache.maxTtl, nanoseconds, nanoseconds]
  omega

/-- Listings are to be kept longer than a thousand years, exactly if a variable is set to such a
time. -/
theorem lt_listingTtl_iff : 31536000000 < (ofLookup lookup).listingTtl
    ↔ ∃ seconds, SetsSeconds lookup listingTtlVar seconds ∧ 31536000000 < seconds
      ∧ seconds ≤ maxSeconds := by
  have httl : (ofLookup lookup).listingTtl
      = ((value? lookup listingTtlVar).bind parseSeconds?).getD 3600 := rfl
  rcases hread : (value? lookup listingTtlVar).bind parseSeconds? with _ | seconds
  · rw [httl, hread]
    refine iff_of_false (by decide) ?_
    rintro ⟨seconds, hset, -, hle⟩
    have hsome := seconds?_eq_some_iff.mpr ⟨hset, hle⟩
    rw [hread] at hsome
    cases hsome
  · rw [httl, hread]
    constructor
    · intro hlt
      obtain ⟨hset, hle⟩ := seconds?_eq_some_iff.mp hread
      exact ⟨seconds, hset, hlt, hle⟩
    · rintro ⟨seconds', hset, hlt, hle⟩
      have hsame := hread.symm.trans (seconds?_eq_some_iff.mpr ⟨hset, hle⟩)
      rwa [Option.getD_some, Option.some.inj hsame]

/-- **Which settings no cache can be made for.**  Whatever the variables hold, the settings that are
read from them give a cache unless the variable for the lifetime of listings is set to a number of
seconds, of 64 bits, that is more than a thousand years.  If there is a cache, the price service is
asked through it; if there is none, no source can be made. -/
theorem cache_of_settings (lookup : Lookup) :
    let config := ofLookup lookup
    (Cache.new? config.cache = none
        ↔ ∃ seconds, SetsSeconds lookup "FUEL_LISTING_TTL_SECS" seconds ∧ 31536000000 < seconds
          ∧ seconds < 18446744073709551616)
      ∧ Source.ofCachedClient config.client config.cache
        = (Cache.new? config.cache).elim (.error .ttlTooLong) (.ok ∘ .cached config.client) := by
  intro config
  have hnone : Cache.new? config.cache = none ↔ 31536000000 < config.listingTtl := by
    rw [← maxTtl_lt_nanoseconds_iff, Cache.new?, ite_eq_right_iff]
    simp [cache, CacheConfig.withTtl]
  refine ⟨?_, ?_⟩
  · rw [hnone, lt_listingTtl_iff]
    have hbits (seconds : Nat) : seconds ≤ maxSeconds ↔ seconds < 18446744073709551616 :=
      Nat.lt_succ_iff.symm
    simp only [hbits]
    rfl
  · have hpermits : config.client.maxConcurrent ≤ Source.maxPermits :=
      (by decide : 4 ≤ Source.maxPermits)
    rw [Source.ofCachedClient, if_pos hpermits]
    rcases Cache.new? config.cache with _ | cache <;> rfl

/-- **A time that is too long for the cache is taken without a word**: nothing falls back to its
default, and there is no cache. -/
theorem too_long_lifetime_is_taken :
    let lookup : Lookup := fun key => if key = listingTtlVar then some "31536000001" else none
    warnings lookup = [] ∧ (ofLookup lookup).listingTtl = 31536000001
      ∧ Cache.new? (ofLookup lookup).cache = none := by
  decide +kernel

end StationFinder.Config
