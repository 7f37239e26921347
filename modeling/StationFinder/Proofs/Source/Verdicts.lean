import StationFinder.Proofs.Source.StandIn
import StationFinder.Proofs.Text.Letters
import StationFinder.Proofs.Text.Padding

/-!
# Proofs/Source/Verdicts — what the answers of the price service come to

Of a request there comes an answer, with a status and a body that may break off, or none for some
reason (`Network.answer`).  `Query.Verdict` says what each of these comes to, one case for one kind
of answer.  No answer comes to two things (`Verdict.unique`), and what is made of an answer when a
question is put to the service is the verdict on it (`SourceM.verdict_fetch`).  So the kind of the
answer can be told from the outcome, and the outcome from the kind of the answer.
-/

namespace StationFinder

/-! ## The words of a refusal -/

namespace StationsReply

variable {s : List Char} {words : String} {reply : StationsReply}

/-- "OK" in large and small letters. -/
def okSpellings : List (List Char) := [['O', 'K'], ['O', 'k'], ['o', 'K'], ['o', 'k']]

/-- Words that say "OK", however the letters are written and with any blanks around. -/
def SaysOk (words : String) : Prop := ∃ core ∈ okSpellings, Text.IsPadded core words.toList

theorem sameLetters_okText_iff : Text.sameLetters s okText = true ↔ s ∈ okSpellings := by
  constructor
  · intro h
    obtain ⟨c₀, _, rfl, h₀, h⟩ := Text.sameLetters_cons_iff.mp h
    obtain ⟨c₁, _, rfl, h₁, h⟩ := Text.sameLetters_cons_iff.mp h
    rw [Text.sameLetters_nil_iff.mp h]
    rcases @Text.eq_or_eq_of_toLower_eq _ 'o' 'O' rfl h₀ with rfl | rfl <;>
      rcases @Text.eq_or_eq_of_toLower_eq _ 'k' 'K' rfl h₁ with rfl | rfl <;> decide
  · have hall : ∀ s ∈ okSpellings, Text.sameLetters s okText = true := by decide
    exact hall s

theorem saysOk_iff :
    SaysOk words ↔ Text.sameLetters (Text.trim words.toList) okText = true := by
  have htrim : ∀ core ∈ okSpellings, Text.trim core = core := by decide
  rw [sameLetters_okText_iff]
  constructor
  · rintro ⟨core, hcore, hpadded⟩
    rw [(Text.trim_eq_iff_isPadded (htrim core hcore)).mpr hpadded]
    exact hcore
  · intro h
    exact ⟨_, h, Text.isPadded_trim _⟩

theorem refusal?_eq_some_iff :
    reply.refusal? = some words ↔ reply.result = some words ∧ ¬ SaysOk words := by
  rw [refusal?, Option.filter_eq_some_iff, saysOk_iff, Bool.not_eq_true', Bool.not_eq_true]

end StationsReply

/-! ## Answers that went well -/

namespace Query

variable {query : Query} {text words words' : String} {outcome outcome' : query.Outcome}

/-- A text refuses a question in these words.  Only questions about stations are refused. -/
def Refuses (text words : String) : Query → Prop
  | stations _ => ∃ reply, Json.decode StationsReply.decoder text = .ok reply
      ∧ reply.result = some words ∧ ¬ StationsReply.SaysOk words
  | provinces | municipalities _ => False

theorem refusal?_eq_some_iff : query.refusal? text = some words ↔ query.Refuses text words := by
  cases query with
  | provinces | municipalities _ => simp [refusal?, Refuses]
  | stations _ =>
    simp only [refusal?, Refuses, Option.bind_eq_some_iff, toOption_eq_some_iff,
      StationsReply.refusal?_eq_some_iff]

/-- A text that refuses a question could be read. -/
theorem Refuses.contentOf_ne_error (h : query.Refuses text words) (fault : Json.Fault) :
    query.contentOf text ≠ .error fault := by
  match query with
  | .stations _ =>
    obtain ⟨reply, hreply, -⟩ := h
    intro hfault
    cases hreply.symm.trans (map_eq_error_iff.mp hfault)

theorem Refuses.unique (h : query.Refuses text words) (h' : query.Refuses text words') :
    words = words' := by
  rw [← refusal?_eq_some_iff] at h h'
  exact Option.some.inj (h.symm.trans h')

/-- The front of a text that is kept when the text cannot be read: up to 500 characters. -/
def IsExcerpt (text excerpt : String) : Prop :=
  excerpt.toList <+: text.toList ∧ excerpt.length = min 500 text.length

/-- What a text comes to that was sent with success. -/
inductive Reading (query : Query) (text : String) : query.Outcome → Prop
  | unreadable {excerpt : String} {fault : Json.Fault}
      (hfault : query.contentOf text = .error fault) (hexcerpt : IsExcerpt text excerpt) :
      Reading query text (.error (.unreadable fault.message excerpt))
  | rejected {words : String} (hwords : query.Refuses text words) :
      Reading query text (.error (.rejected words))
  | found {found : query.Found} (hfound : query.contentOf text = .ok found)
      (hnone : ∀ words, ¬ query.Refuses text words) : Reading query text (.ok found)

theorem isExcerpt_iff {excerpt : String} :
    IsExcerpt text excerpt ↔ excerpt = Reply.excerpt text := by
  have hlength : (text.toList.take 500).length = min 500 text.length := List.length_take
  rw [IsExcerpt, ← String.length_toList, ← hlength, Reply.excerpt, Reply.excerptLength,
    ← String.toList_inj, String.toList_ofList]
  constructor
  · rintro ⟨hfront, hlength⟩
    exact (List.prefix_of_prefix_length_le hfront (List.take_prefix _ _) hlength.le).eq_of_length
      hlength
  · intro h
    rw [h]
    exact ⟨List.take_prefix _ _, rfl⟩

theorem Reading.unique (h : query.Reading text outcome) (h' : query.Reading text outcome') :
    outcome = outcome' := by
  cases h with
  | unreadable hfault hexcerpt =>
    cases h' with
    | unreadable hfault' hexcerpt' =>
      cases hfault.symm.trans hfault'
      rw [isExcerpt_iff.mp hexcerpt, isExcerpt_iff.mp hexcerpt']
    | rejected hwords => exact absurd hfault (hwords.contentOf_ne_error _)
    | found hfound => cases hfault.symm.trans hfound
  | rejected hwords =>
    cases h' with
    | unreadable hfault => exact absurd hfault (hwords.contentOf_ne_error _)
    | rejected hwords' => rw [hwords.unique hwords']
    | found _ hnone => exact absurd hwords (hnone _)
  | found hfound hnone =>
    cases h' with
    | unreadable hfault => cases hfault.symm.trans hfound
    | rejected hwords => exact absurd hwords (hnone _)
    | found hfound' =>
      cases hfound.symm.trans hfound'
      rfl

end Query

/-! ## Verdicts -/

theorem not_isSuccess_tooMany : ¬ IsSuccess 429 := fun h => absurd h.2 (by decide)

/-- What comes of a request that asks a question: a status and a body, unless it broke off; or no
answer. -/
def Network.answer {σ : Type} (network : Network σ) (config : ClientConfig) (query : Query)
    (memory : σ) : Except ExchangeFault (Nat × Option String) :=
  match (ApiRequest.ofQuery config query).destination with
  | .error fault => .error fault
  | .ok _ =>
    match (network.send (ApiRequest.ofQuery config query) memory).1 with
    | .nothing fault => .error fault
    | .answer status body => .ok (status, body)

namespace Query

variable {query : Query} {came : Except ExchangeFault (Nat × Option String)}
  {outcome outcome' : query.Outcome}

/-- What an answer comes to, or that there is none. -/
inductive Verdict (query : Query) :
    Except ExchangeFault (Nat × Option String) → query.Outcome → Prop
  | noAnswer (fault : ExchangeFault) : Verdict query (.error fault) (.error (.exchange fault))
  | rateLimited (body : Option String) : Verdict query (.ok (429, body)) (.error .rateLimited)
  | status {status : Nat} (hlimit : status ≠ 429) (hstatus : ¬ IsSuccess status)
      (body : Option String) :
      Verdict query (.ok (status, body)) (.error (.status status (body.getD "")))
  | brokeOff {status : Nat} (hstatus : IsSuccess status) :
      Verdict query (.ok (status, none)) (.error (.exchange .brokeOff))
  | read {status : Nat} {text : String} {outcome : query.Outcome} (hstatus : IsSuccess status)
      (hreading : query.Reading text outcome) : Verdict query (.ok (status, some text)) outcome

/-- **An answer comes to one thing.** -/
theorem Verdict.unique (h : query.Verdict came outcome) (h' : query.Verdict came outcome') :
    outcome = outcome' := by
  cases h with
  | noAnswer fault =>
    cases h'
    rfl
  | rateLimited body =>
    cases h' with
    | rateLimited => rfl
    | status hlimit => exact absurd rfl hlimit
    | brokeOff hstatus | read hstatus => exact absurd hstatus not_isSuccess_tooMany
  | status hlimit hstatus body =>
    cases h' with
    | rateLimited => exact absurd rfl hlimit
    | status => rfl
    | brokeOff hstatus' | read hstatus' => exact absurd hstatus' hstatus
  | brokeOff hstatus =>
    cases h' with
    | rateLimited => exact absurd hstatus not_isSuccess_tooMany
    | status _ hstatus' => exact absurd hstatus hstatus'
    | brokeOff => rfl
  | read hstatus hreading =>
    cases h' with
    | rateLimited => exact absurd hstatus not_isSuccess_tooMany
    | status _ hstatus' => exact absurd hstatus hstatus'
    | read _ hreading' => exact hreading.unique hreading'

namespace Verdict

variable (h : query.Verdict came outcome)

include h

theorem eq_exchange_iff {fault : ExchangeFault} : outcome = .error (.exchange fault)
    ↔ came = .error fault
      ∨ fault = .brokeOff ∧ ∃ status, IsSuccess status ∧ came = .ok (status, none) := by
  constructor
  · rintro rfl
    cases h with
    | noAnswer => exact .inl rfl
    | brokeOff hstatus => exact .inr ⟨rfl, _, hstatus, rfl⟩
    | read _ hreading => cases hreading
  · rintro (rfl | ⟨rfl, status, hstatus, rfl⟩)
    · exact h.unique (.noAnswer fault)
    · exact h.unique (.brokeOff hstatus)

theorem eq_rateLimited_iff :
    outcome = .error .rateLimited ↔ ∃ body, came = .ok (429, body) := by
  constructor
  · rintro rfl
    cases h with
    | rateLimited body => exact ⟨body, rfl⟩
    | read _ hreading => cases hreading
  · rintro ⟨body, rfl⟩
    exact h.unique (.rateLimited body)

theorem eq_status_iff {status : Nat} {message : String} :
    outcome = .error (.status status message) ↔ status ≠ 429 ∧ ¬ IsSuccess status
      ∧ ∃ body, came = .ok (status, body) ∧ message = body.getD "" := by
  constructor
  · rintro rfl
    cases h with
    | status hlimit hstatus body => exact ⟨hlimit, hstatus, body, rfl, rfl⟩
    | read _ hreading => cases hreading
  · rintro ⟨hlimit, hstatus, body, rfl, rfl⟩
    exact h.unique (.status hlimit hstatus body)

theorem eq_unreadable_iff {reason excerpt : String} :
    outcome = .error (.unreadable reason excerpt)
      ↔ ∃ status text fault, IsSuccess status ∧ came = .ok (status, some text)
        ∧ query.contentOf text = .error fault ∧ reason = fault.message
        ∧ IsExcerpt text excerpt := by
  constructor
  · rintro rfl
    cases h with
    | read hstatus hreading =>
      cases hreading with
      | unreadable hfault hexcerpt => exact ⟨_, _, _, hstatus, rfl, hfault, rfl, hexcerpt⟩
  · rintro ⟨status, text, fault, hstatus, rfl, hfault, rfl, hexcerpt⟩
    exact h.unique (.read hstatus (.unreadable hfault hexcerpt))

theorem eq_rejected_iff {words : String} : outcome = .error (.rejected words)
    ↔ ∃ status text, IsSuccess status ∧ came = .ok (status, some text)
      ∧ query.Refuses text words := by
  constructor
  · rintro rfl
    cases h with
    | read hstatus hreading =>
      cases hreading with
      | rejected hwords => exact ⟨_, _, hstatus, rfl, hwords⟩
  · rintro ⟨status, text, hstatus, rfl, hwords⟩
    exact h.unique (.read hstatus (.rejected hwords))

theorem eq_ok_iff {found : query.Found} : outcome = .ok found
    ↔ ∃ status text, IsSuccess status ∧ came = .ok (status, some text)
      ∧ query.contentOf text = .ok found ∧ ∀ words, ¬ query.Refuses text words := by
  constructor
  · rintro rfl
    cases h with
    | read hstatus hreading =>
      cases hreading with
      | found hfound hnone => exact ⟨_, _, hstatus, rfl, hfound, hnone⟩
  · rintro ⟨status, text, hstatus, rfl, hfound, hnone⟩
    exact h.unique (.read hstatus (.found hfound hnone))

/-- The price service does not stand in for itself. -/
theorem ne_fixtures (reason : String) : outcome ≠ .error (.fixtures reason) := by
  rintro rfl
  cases h with
  | read _ hreading => cases hreading

end Verdict

/-! ## Reading is the verdict -/

theorem read_of_contentOf_error {text : String} {fault : Json.Fault} {status : Nat}
    (hstatus : IsSuccess status) (h : query.contentOf text = .error fault) :
    query.read (.answer status (some text))
      = .error (.unreadable fault.message (Reply.excerpt text)) := by
  have hread {α : Type} {decoder : Json.Decoder α}
      (hfault : Json.decode decoder text = .error fault) :
      (Reply.answer status (some text)).read decoder
        = .error (.unreadable fault.message (Reply.excerpt text)) := by
    rw [Reply.read_of_success hstatus, Reply.readBody, hfault]
    rfl
  match query with
  | .provinces | .municipalities _ | .stations _ =>
    rw [read, hread (map_eq_error_iff.mp h)]
    rfl

theorem reading_read {status : Nat} (hstatus : IsSuccess status) (text : String) :
    query.Reading text (query.read (.answer status (some text))) := by
  rcases hcontent : query.contentOf text with fault | found
  · rw [read_of_contentOf_error hstatus hcontent]
    exact .unreadable hcontent (isExcerpt_iff.mpr rfl)
  · rw [read_of_contentOf hstatus hcontent]
    rcases hwords : query.refusal? text with _ | words
    · refine .found hcontent fun words hrefuses => ?_
      cases hwords.symm.trans (refusal?_eq_some_iff.mpr hrefuses)
    · exact .rejected (refusal?_eq_some_iff.mp hwords)

/-- A reply that cannot be read as anything comes to the same fault for each question. -/
theorem read_eq_error {reply : Reply} {fault : SourceFault}
    (h : ∀ (α : Type) (decoder : Json.Decoder α), reply.read decoder = .error fault) :
    query.read reply = .error fault := by
  match query with
  | .provinces | .municipalities _ | .stations _ =>
    rw [read, h]
    rfl

/-- **What is made of an answer is the verdict on it.** -/
theorem verdict_read (status : Nat) (body : Option String) :
    query.Verdict (.ok (status, body)) (query.read (.answer status body)) := by
  by_cases hlimit : status = 429
  · have hread : query.read (.answer status body) = .error .rateLimited :=
      read_eq_error fun α decoder => if_pos hlimit
    subst hlimit
    rw [hread]
    exact .rateLimited body
  by_cases hstatus : IsSuccess status
  · match body with
    | none =>
      have hread : query.read (.answer status none) = .error (.exchange .brokeOff) :=
        read_eq_error fun α decoder =>
          (if_neg hlimit).trans (if_neg (not_not_intro hstatus))
      rw [hread]
      exact .brokeOff hstatus
    | some text => exact .read hstatus (reading_read hstatus text)
  · have hread : query.read (.answer status body) = .error (.status status (body.getD "")) :=
      read_eq_error fun α decoder => (if_neg hlimit).trans (if_pos hstatus)
    rw [hread]
    exact .status hlimit hstatus body

end Query

namespace SourceM

variable {σ : Type}

/-- **Whatever the service answers, a question to it comes to the verdict on the answer.** -/
theorem verdict_fetch (network : Network σ) (config : ClientConfig) (query : Query)
    (state : SourceState σ) : query.Verdict (network.answer config query state.network)
      (fetch network config query state).1 := by
  rw [Network.answer]
  rcases hdest : (ApiRequest.ofQuery config query).destination with fault | address
  · rw [fetch_of_error hdest]
    exact .noAnswer fault
  · rw [fetch_of_ok hdest]
    rcases (network.send (ApiRequest.ofQuery config query) state.network).1
      with fault | ⟨status, body⟩
    · have hread : query.read (.nothing fault) = .error (.exchange fault) :=
        Query.read_eq_error fun α decoder => rfl
      rw [hread]
      exact .noAnswer fault
    · exact Query.verdict_read status body

/-- **The answers of the service are told apart by what they come to.**  For each question and
whatever comes of the request for it:
- no answer, or one that broke off and tells of success, comes to a fault of the exchange;
- the status 429 comes to a rate limit, whatever the body;
- all other statuses that do not tell of success come to themselves with their body, which is empty
  if it broke off;
- a body of success that cannot be read comes to its first 500 characters, or all it has;
- one that refuses a question about stations comes to the words of the refusal;
- and in all other cases, and in no more, the question is answered with what the body says. -/
theorem fetch_tells_answers_apart (network : Network σ) (config : ClientConfig) (query : Query)
    (state : SourceState σ) :
    let came := network.answer config query state.network
    let outcome := (fetch network config query state).1
    (∀ fault, outcome = .error (.exchange fault) ↔ came = .error fault
      ∨ fault = .brokeOff ∧ ∃ status, IsSuccess status ∧ came = .ok (status, none))
    ∧ (outcome = .error .rateLimited ↔ ∃ body, came = .ok (429, body))
    ∧ (∀ status message, outcome = .error (.status status message) ↔
      status ≠ 429 ∧ ¬ IsSuccess status
        ∧ ∃ body, came = .ok (status, body) ∧ message = body.getD "")
    ∧ (∀ reason excerpt, outcome = .error (.unreadable reason excerpt) ↔
      ∃ status text fault, IsSuccess status ∧ came = .ok (status, some text)
        ∧ query.contentOf text = .error fault ∧ reason = fault.message
        ∧ excerpt.toList <+: text.toList ∧ excerpt.length = min 500 text.length)
    ∧ (∀ words, outcome = .error (.rejected words) ↔
      ∃ status text, IsSuccess status ∧ came = .ok (status, some text)
        ∧ query.Refuses text words)
    ∧ (∀ found, outcome = .ok found ↔
      ∃ status text, IsSuccess status ∧ came = .ok (status, some text)
        ∧ query.contentOf text = .ok found ∧ ∀ words, ¬ query.Refuses text words)
    ∧ ∀ reason, outcome ≠ .error (.fixtures reason) := by
  intro came outcome
  have h : query.Verdict came outcome := verdict_fetch network config query state
  exact ⟨fun _ => h.eq_exchange_iff, h.eq_rateLimited_iff, fun _ _ => h.eq_status_iff,
    fun _ _ => h.eq_unreadable_iff, fun _ => h.eq_rejected_iff, fun _ => h.eq_ok_iff,
    h.ne_fixtures⟩

end SourceM

end StationFinder
