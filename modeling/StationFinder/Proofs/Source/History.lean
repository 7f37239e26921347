import StationFinder.Proofs.Source.Ask

/-!
# Proofs/Source/History — a cache finds what was last put there

What is done with a cache in the course of time is a list of operations: listings are put and looked
for, and time goes by.  Each of them leaves a question as it was or puts a listing under it
(`Operation.stamped?_after`), so in the end a question stands with the last that was put under it
(`stamped?_replay`), and what is found is that listing, as long as less than the time to live has
gone by since (`Cache.found_by_history`).

The clock of the cache comes to its end after some centuries, and from then on nothing is found
(`Cache.not_found_at_clockEnd`).
-/

namespace StationFinder.Cache

/-! ## Operations -/

/-- What is done with a cache. -/
inductive Operation where
  | putProvinces (list : List Province)
  | putMunicipalities (province : ProvinceId) (list : List Municipality)
  | provinces
  | municipalities (province : ProvinceId)
  | advance (duration : Nat)

/-- What an operation finds. -/
inductive Finding where
  | provinces (list : Option (List Province))
  | municipalities (list : Option (List Municipality))
  | nothing
deriving DecidableEq

/-- A cache at some time of its clock. -/
structure Moment where
  cache : Cache
  now : Nat

namespace Operation

/-- What becomes of a cache and its clock. -/
def after (moment : Moment) : Operation → Moment
  | putProvinces list => { moment with cache := moment.cache.putProvinces moment.now list }
  | putMunicipalities province list =>
    { moment with cache := moment.cache.putMunicipalities moment.now province list }
  | advance duration => { moment with now := moment.now + duration }
  | provinces | municipalities _ => moment

/-- What an operation finds. -/
def finds (moment : Moment) : Operation → Finding
  | provinces => .provinces (moment.cache.provinces? moment.now)
  | municipalities province =>
    .municipalities (moment.cache.municipalities? moment.now province)
  | _ => .nothing

/-- Whether an operation looks for a listing. -/
def isLook : Operation → Bool
  | provinces | municipalities _ => true
  | _ => false

/-- What an operation puts under a question. -/
def puts? : (query : Query) → Operation → Option query.Found
  | .provinces, putProvinces list => some list
  | .municipalities province, putMunicipalities province' list =>
    if province' = province then some list else none
  | _, _ => none

/-- How much time goes by. -/
def duration : Operation → Nat
  | advance duration => duration
  | _ => 0

end Operation

/-- What becomes of a cache and its clock after some operations. -/
def replay (moment : Moment) (operations : List Operation) : Moment :=
  operations.foldl Operation.after moment

/-- What some operations find, one after the other. -/
def findings (moment : Moment) : List Operation → List Finding
  | [] => []
  | operation :: later => operation.finds moment :: findings (operation.after moment) later

/-- How much time goes by in the course of some operations. -/
def elapsed : List Operation → Nat
  | [] => 0
  | operation :: later => operation.duration + elapsed later

/-- The last that is put under a question in the course of some operations, with the time that goes
by after that. -/
def lastPut? (query : Query) : List Operation → Option (query.Found × Nat)
  | [] => none
  | operation :: later =>
    (lastPut? query later).or ((operation.puts? query).map (·, elapsed later))

variable {moment : Moment} {operation : Operation} {operations past later : List Operation}
  {query : Query} {ttl : Nat}

/-! ## What is put last -/

theorem lastPut?_eq_none_iff : lastPut? query operations = none
    ↔ ∀ operation ∈ operations, operation.puts? query = none := by
  induction operations with
  | nil => simp [lastPut?]
  | cons operation later ih =>
    rw [lastPut?, Option.or_eq_none_iff, ih, Option.map_eq_none_iff, List.forall_mem_cons, and_comm]

/-- **What is put last is followed by nothing else under the question.** -/
theorem lastPut?_eq_some_iff {found : query.Found} {time : Nat} :
    lastPut? query operations = some (found, time)
      ↔ ∃ earlier operation later, operations = earlier ++ operation :: later
        ∧ operation.puts? query = some found ∧ (∀ other ∈ later, other.puts? query = none)
        ∧ elapsed later = time := by
  induction operations with
  | nil => simp [lastPut?]
  | cons operation later ih =>
    rw [lastPut?, Option.or_eq_some_iff, ih, lastPut?_eq_none_iff, Option.map_eq_some_iff]
    constructor
    · rintro (⟨earlier, operation', later', rfl, hputs, hnone, htime⟩
        | ⟨hnone, found', hputs, heq⟩)
      · exact ⟨operation :: earlier, operation', later', rfl, hputs, hnone, htime⟩
      · obtain ⟨rfl, htime⟩ := Prod.mk.inj heq
        exact ⟨[], operation, later, rfl, hputs, hnone, htime⟩
    · rintro ⟨earlier, operation', later', heq, hputs, hnone, htime⟩
      rcases List.cons_eq_append_iff.mp heq with ⟨rfl, hcons⟩ | ⟨earlier', rfl, rfl⟩
      · obtain ⟨rfl, rfl⟩ := List.cons.inj hcons
        exact .inr ⟨hnone, found, hputs, by rw [htime]⟩
      · exact .inl ⟨earlier', operation', later', rfl, hputs, hnone, htime⟩

theorem elapsed_append : elapsed (past ++ later) = elapsed past + elapsed later := by
  induction past with
  | nil => exact (Nat.zero_add _).symm
  | cons operation past ih => rw [List.cons_append, elapsed, elapsed, ih, Nat.add_assoc]

/-- What was put last was put in the course of the operations. -/
theorem time_le_elapsed {put : query.Found × Nat} (h : lastPut? query past = some put) :
    put.2 ≤ elapsed past := by
  obtain ⟨earlier, operation, later, rfl, -, -, htime⟩ := lastPut?_eq_some_iff.mp h
  rw [elapsed_append, elapsed]
  omega

/-! ## What is in the cache -/

namespace Operation

/-- The clock goes on by the time of an operation. -/
theorem now_after : (operation.after moment).now = moment.now + operation.duration := by
  cases operation <;> rfl

theorem ttl_after : (operation.after moment).cache.ttl = moment.cache.ttl := by
  cases operation <;> rfl

/-- No time goes by while a listing is put. -/
theorem duration_of_puts? {found : query.Found} (h : operation.puts? query = some found) :
    operation.duration = 0 := by
  cases operation with
  | advance duration => cases query <;> cases h
  | _ => rfl

/-- **An operation puts a listing under a question or leaves the question as it was.** -/
theorem stamped?_after (hq : query.isListing = true) :
    (operation.after moment).cache.stamped? query
      = ((operation.puts? query).map (⟨·, moment.now⟩)).or (moment.cache.stamped? query) := by
  cases query with
  | stations _ => cases hq
  | provinces =>
    cases operation with
    | putMunicipalities province list =>
      have hne : Query.provinces ≠ .municipalities province := nofun
      exact stamped?_put_of_ne hne list
    | putProvinces _ | provinces | municipalities _ | advance _ => rfl
  | municipalities province =>
    cases operation with
    | putMunicipalities province' list =>
      by_cases hsame : province' = province
      · subst hsame
        rw [puts?, if_pos rfl]
        exact stamped?_put_self hq list
      · have hne : Query.municipalities province ≠ .municipalities province' := fun h =>
          hsame (Query.municipalities.inj h).symm
        rw [puts?, if_neg hsame]
        exact stamped?_put_of_ne hne list
    | putProvinces _ | provinces | municipalities _ | advance _ => rfl

end Operation

theorem now_replay : (replay moment operations).now = moment.now + elapsed operations := by
  induction operations generalizing moment with
  | nil => rfl
  | cons operation later ih =>
    rw [replay, List.foldl_cons, ← replay, ih, Operation.now_after, elapsed, Nat.add_assoc]

theorem ttl_replay : (replay moment operations).cache.ttl = moment.cache.ttl := by
  induction operations generalizing moment with
  | nil => rfl
  | cons operation later ih => exact ih.trans Operation.ttl_after

/-- **A question stands with the last that was put under it**, and with the time of that. -/
theorem stamped?_replay (hq : query.isListing = true) :
    (replay moment operations).cache.stamped? query
      = ((lastPut? query operations).map fun put =>
          ⟨put.1, moment.now + elapsed operations - put.2⟩).or (moment.cache.stamped? query) := by
  induction operations generalizing moment with
  | nil => rfl
  | cons operation later ih =>
    rw [replay, List.foldl_cons, ← replay, ih, Operation.stamped?_after hq, Operation.now_after,
      lastPut?, elapsed]
    rcases lastPut? query later with _ | put
    · rcases hputs : operation.puts? query with _ | found
      · rfl
      · have hsince : moment.now + (operation.duration + elapsed later) - elapsed later
            = moment.now := by
          rw [Operation.duration_of_puts? hputs]
          omega
        simp [hsince]
    · simp [Nat.add_assoc]

/-! ## What is found -/

/-- The last that was put under a question is a listing, and less than `ttl` has gone by since. -/
def Recalls (ttl : Nat) (past : List Operation) (query : Query) (found : query.Found) : Prop :=
  ∃ earlier put later, past = earlier ++ put :: later ∧ put.puts? query = some found
    ∧ (∀ other ∈ later, other.puts? query = none) ∧ elapsed later < ttl

theorem recalls_iff {found : query.Found} : Recalls ttl past query found
    ↔ ∃ time < ttl, lastPut? query past = some (found, time) := by
  simp only [lastPut?_eq_some_iff]
  constructor
  · rintro ⟨earlier, put, later, hpast, hputs, hnone, hlt⟩
    exact ⟨_, hlt, earlier, put, later, hpast, hputs, hnone, rfl⟩
  · rintro ⟨_, hlt, earlier, put, later, hpast, hputs, hnone, rfl⟩
    exact ⟨earlier, put, later, hpast, hputs, hnone, hlt⟩

section Began

variable {config : CacheConfig} {cache : Cache}

/-- **What a cache that began empty says to a question** is what its history tells, until the clock
ends. -/
theorem kept?_replay_eq_some_iff (h : new? config = some cache) (start : Nat)
    (hq : query.isListing = true) {found : query.Found} :
    (replay ⟨cache, start⟩ past).cache.kept? (replay ⟨cache, start⟩ past).now query = some found
      ↔ Recalls config.ttl past query found ∧ start + elapsed past < clockEnd := by
  rw [kept?, ttl_replay, now_replay, stamped?_replay hq, stamped?_of_new? h, ttl_of_new? h,
    Option.or_none, recalls_iff]
  rcases hlast : lastPut? query past with _ | put
  · simp
  · have hle := time_le_elapsed hlast
    have hfresh : start + elapsed past < start + elapsed past - put.2 + config.ttl
        ↔ put.2 < config.ttl := by
      omega
    simp only [Option.map_some, Option.bind_some, Stamped.fresh?, hfresh]
    constructor
    · intro hfound
      split at hfound
      · next hboth =>
        obtain rfl := Option.some.inj hfound
        exact ⟨⟨put.2, hboth.1, rfl⟩, hboth.2⟩
      · cases hfound
    · rintro ⟨⟨time, hlt, hput⟩, hclock⟩
      obtain rfl := Option.some.inj hput
      exact if_pos ⟨hlt, hclock⟩

/-- With no time to live nothing is said. -/
theorem kept?_replay_of_ttl_eq_zero (h : new? config = some cache) (start : Nat)
    (hzero : config.ttl = 0) (hq : query.isListing = true) :
    (replay ⟨cache, start⟩ past).cache.kept? (replay ⟨cache, start⟩ past).now query = none := by
  refine Option.eq_none_iff_forall_ne_some.mpr fun found hfound => ?_
  obtain ⟨⟨-, -, later, -, -, -, hlt⟩, -⟩ := (kept?_replay_eq_some_iff h start hq).mp hfound
  omega

end Began

theorem findings_append : findings moment (past ++ later)
    = findings moment past ++ findings (replay moment past) later := by
  induction past generalizing moment with
  | nil => rfl
  | cons operation past ih => exact congrArg (_ :: ·) ih

theorem length_findings : (findings moment operations).length = operations.length := by
  induction operations generalizing moment with
  | nil => rfl
  | cons operation later ih => exact congrArg (· + 1) ih

/-- What an operation finds in the course of others depends on those before it. -/
theorem getElem?_findings : (findings moment (past ++ operation :: later))[past.length]?
    = some (operation.finds (replay moment past)) := by
  have hlength : (findings moment past).length = past.length := length_findings
  rw [findings_append, ← hlength, List.getElem?_append_right (Nat.le_refl _), Nat.sub_self]
  rfl

/-- To look for a listing changes nothing. -/
theorem replay_filter :
    replay moment (operations.filter (!·.isLook)) = replay moment operations := by
  induction operations generalizing moment with
  | nil => rfl
  | cons operation later ih =>
    cases operation with
    | provinces | municipalities _ => exact ih
    | putProvinces _ | putMunicipalities _ _ | advance _ => exact ih

/-- Each finding is that of an operation, after those before it. -/
theorem exists_of_mem_findings {finding : Finding} (h : finding ∈ findings moment operations) :
    ∃ past operation later, operations = past ++ operation :: later
      ∧ finding = operation.finds (replay moment past) := by
  induction operations generalizing moment with
  | nil => cases h
  | cons operation later ih =>
    rcases List.mem_cons.mp h with rfl | h
    · exact ⟨[], operation, later, rfl, rfl⟩
    · obtain ⟨past, operation', later', rfl, hfinding⟩ := ih h
      exact ⟨operation :: past, operation', later', rfl, hfinding⟩

/-- **A cache finds what was last put there.**  Take any cache that can be made, at any time of its
clock, and anything that is done with it, as long as it does not have to make room.  Whoever
looks for a listing finds exactly the last that was put under this very question, if less than the
time to live has gone by since and the clock has not come to its end, and otherwise nothing.  To
look changes nothing of what is found later, and with no time to live nothing is ever found. -/
theorem found_by_history {config : CacheConfig} {cache : Cache} (h : new? config = some cache)
    (start : Nat) (past later : List Operation) :
    (∃ list?, (findings ⟨cache, start⟩ (past ++ .provinces :: later))[past.length]?
          = some (.provinces list?)
        ∧ ∀ list, list? = some list ↔ Recalls config.ttl past .provinces list
          ∧ start + elapsed past < 18446744073709551614)
      ∧ (∀ province, ∃ list?,
        (findings ⟨cache, start⟩ (past ++ .municipalities province :: later))[past.length]?
            = some (.municipalities list?)
          ∧ ∀ list, list? = some list ↔ Recalls config.ttl past (.municipalities province) list
            ∧ start + elapsed past < 18446744073709551614)
      ∧ findings (replay ⟨cache, start⟩ past) later
        = findings (replay ⟨cache, start⟩ (past.filter (!·.isLook))) later
      ∧ (config.ttl = 0 → ∀ finding ∈ findings ⟨cache, start⟩ past,
        finding ∈ [.provinces none, .municipalities none, .nothing]) := by
  have hend : clockEnd = 18446744073709551614 := by decide +kernel
  refine ⟨⟨_, getElem?_findings, fun list => ?provinces⟩, fun province => ⟨_, getElem?_findings,
    fun list => ?municipalities⟩, by rw [replay_filter], fun hzero finding hfinding => ?zero⟩
  case provinces =>
    have hq : Query.provinces.isListing = true := rfl
    exact hend ▸ kept?_replay_eq_some_iff h start hq
  case municipalities =>
    have hq : (Query.municipalities province).isListing = true := rfl
    exact hend ▸ kept?_replay_eq_some_iff h start hq
  case zero =>
    obtain ⟨past, operation, later, rfl, rfl⟩ := exists_of_mem_findings hfinding
    cases operation with
    | provinces =>
      have hq : Query.provinces.isListing = true := rfl
      have hnone : (replay ⟨cache, start⟩ past).cache.provinces? (replay ⟨cache, start⟩ past).now
          = none := kept?_replay_of_ttl_eq_zero h start hzero hq
      simp [Operation.finds, hnone]
    | municipalities province =>
      have hq : (Query.municipalities province).isListing = true := rfl
      have hnone : (replay ⟨cache, start⟩ past).cache.municipalities?
          (replay ⟨cache, start⟩ past).now province = none :=
        kept?_replay_of_ttl_eq_zero h start hzero hq
      simp [Operation.finds, hnone]
    | putProvinces _ | putMunicipalities _ _ | advance _ => simp [Operation.finds]

/-- A listing is looked for when it has an hour to live and a second is left of it; another one was
put meanwhile under an id that looks alike. -/
theorem found_in_last_second :
    let one : List Municipality := [⟨⟨"7", by decide⟩, "A"⟩]
    let other : List Municipality := [⟨⟨"8", by decide⟩, "B"⟩]
    let past : List Operation := [.putMunicipalities ⟨"1", by decide⟩ one,
      .advance (nanoseconds 3000), .putMunicipalities ⟨"01", by decide⟩ other,
      .municipalities ⟨"1", by decide⟩, .advance (nanoseconds 599)]
    (findings ⟨⟨nanoseconds 3600, none, .empty⟩, 0⟩
        (past ++ [.municipalities ⟨"1", by decide⟩]))[5]?
      = some (.municipalities (some one)) := by
  intro one other past
  obtain ⟨-, hmunicipalities, -⟩ :=
    found_by_history (by decide : new? .initial = some ⟨nanoseconds 3600, none, .empty⟩) 0 past []
  obtain ⟨list?, hfound, hlist⟩ := hmunicipalities ⟨"1", by decide⟩
  have hone : list? = some one :=
    (hlist one).mpr ⟨⟨[], _, _, rfl, rfl, by decide, by decide⟩, by decide⟩
  exact hone ▸ hfound

/-- **When the clock of the cache has come to its end, nothing is found**: a listing is gone at the
moment in which it was put, with an hour to live. -/
theorem not_found_at_clockEnd :
    let list : List Province := [⟨⟨"1", by decide⟩, "A"⟩]
    let past : List Operation := [.advance (nanoseconds 18446744074), .putProvinces list]
    new? ⟨nanoseconds 3600, 64⟩ = some ⟨nanoseconds 3600, none, .empty⟩
      ∧ Recalls (nanoseconds 3600) past .provinces list
      ∧ (findings ⟨⟨nanoseconds 3600, none, .empty⟩, 0⟩ (past ++ [.provinces]))[past.length]?
        = some (.provinces none) := by
  intro list past
  exact ⟨by decide, ⟨[.advance (nanoseconds 18446744074)], _, [], rfl, rfl, by simp, by decide⟩,
    by decide +kernel⟩

end StationFinder.Cache
