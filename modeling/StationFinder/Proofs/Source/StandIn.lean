import StationFinder.Proofs.Source.Ask
import StationFinder.Proofs.Source.Files

/-!
# Proofs/Source/StandIn — files in the place of the price service

A file that stands for the answer to a question is read as the same text would be read if the price
service sent it: listings and stations come out alike.  There is one difference.  The service may
refuse a question in the very text of its answer (`Query.refusal?`), and whoever asks the service
takes notice of that, but whoever asks the files does not.  So files and service agree on a question
exactly if its file does not refuse it (`SourceM.files_answer_like_service`).
-/

namespace StationFinder

variable {σ : Type} {query : Query}

/-! ## Answers from files -/

namespace Fixtures

variable {fixtures : Fixtures}

theorem toOption_answer (fixtures : Fixtures) (query : Query) :
    (fixtures.answer query).toOption = fixtures.find? query := by
  match query with
  | .provinces => rfl
  | .municipalities province =>
    rw [answer, find?, listMunicipalities]
    cases fixtures.municipalities.get? province.text <;> rfl
  | .stations scope =>
    rw [answer, find?, listStations]
    cases fixtures.stations? scope <;> rfl

theorem answer_eq_ok_iff {found : query.Found} :
    fixtures.answer query = .ok found ↔ fixtures.find? query = some found := by
  rw [← toOption_answer, toOption_eq_some_iff]

end Fixtures

theorem Source.ofDirectory_eq_ok_iff {directory : Directory} {source : Source} :
    ofDirectory directory = .ok source
      ↔ ∃ fixtures, Fixtures.load directory = .ok fixtures ∧ .fixtures fixtures = source := by
  rw [ofDirectory, mapError_eq_ok_iff, map_eq_ok_iff]

/-! ## Answers from the service -/

namespace StationsReply

/-- The words in which an answer refuses the query: a result that is not "OK", blanks around it and
the case of its letters aside. -/
def refusal? (reply : StationsReply) : Option String :=
  reply.result.filter fun result => !Text.sameLetters (Text.trim result.toList) okText

theorem accepted_eq (reply : StationsReply) :
    reply.accepted = reply.refusal?.elim (.ok reply.stations) (.error ∘ .rejected) := by
  obtain ⟨stations, result⟩ := reply
  rcases result with _ | words
  · rfl
  · rcases hok : Text.sameLetters (Text.trim words.toList) okText with _ | _ <;>
      simp [accepted, isOk, refusal?, Option.filter_some, hok]

end StationsReply

/-- A status that tells of success. -/
def IsSuccess (status : Nat) : Prop := 200 ≤ status ∧ status < 300

/-- A body that comes with a status of success is read. -/
theorem Reply.read_of_success {α : Type} {status : Nat} (h : IsSuccess status)
    (decoder : Json.Decoder α) (text : String) :
    (answer status (some text)).read decoder = readBody decoder text := by
  have hlimit : status ≠ 429 := Nat.ne_of_lt (Nat.lt_trans h.2 (by decide))
  exact (if_neg hlimit).trans (if_neg (not_not_intro h))

namespace Query

/-- The words in which a text refuses the question that it answers.  Only questions about stations
are refused. -/
def refusal? (text : String) : Query → Option String
  | stations _ => (Json.decode StationsReply.decoder text).toOption.bind StationsReply.refusal?
  | provinces | municipalities _ => none

/-- **How an answer is read**: as what its text says, unless the text refuses the question. -/
theorem read_of_contentOf {text : String} {found : query.Found} {status : Nat}
    (hstatus : IsSuccess status) (h : query.contentOf text = .ok found) :
    query.read (.answer status (some text))
      = (query.refusal? text).elim (.ok found) (.error ∘ .rejected) := by
  have hread {α : Type} {decoder : Json.Decoder α} {a : α} (ha : Json.decode decoder text = .ok a) :
      (Reply.answer status (some text)).read decoder = .ok a := by
    rw [Reply.read_of_success hstatus]
    exact mapError_eq_ok_iff.mpr ha
  match query with
  | .provinces =>
    obtain ⟨listing, hlisting, rfl⟩ := map_eq_ok_iff.mp h
    rw [read, hread hlisting]
    rfl
  | .municipalities province =>
    obtain ⟨listing, hlisting, rfl⟩ := map_eq_ok_iff.mp h
    rw [read, hread hlisting]
    rfl
  | .stations scope =>
    obtain ⟨reply, hreply, rfl⟩ := map_eq_ok_iff.mp h
    rw [read, hread hreply, refusal?, hreply]
    exact reply.accepted_eq

end Query

/-- The price service answers a question with a text. -/
structure Network.Gives (network : Network σ) (config : ClientConfig) (memory : σ) (query : Query)
    (text : String) : Prop where
  /-- A request can be sent. -/
  destination : ∃ address, (ApiRequest.ofQuery config query).destination = .ok address
  reply : (network.send (ApiRequest.ofQuery config query) memory).1 = .answer 200 (some text)

namespace SourceM

variable {network : Network σ} {config : ClientConfig} {state : SourceState σ} {text : String}

/-- What comes of a question to the service, when the service answers with a text. -/
theorem fetch_of_gives {found : query.Found} (h : network.Gives config state.network query text)
    (hfound : query.contentOf text = .ok found) : (fetch network config query state).1
      = (query.refusal? text).elim (.ok found) (.error ∘ .rejected) := by
  obtain ⟨address, haddress⟩ := h.destination
  rw [fetch_of_ok haddress, h.reply]
  exact Query.read_of_contentOf ⟨Nat.le_refl 200, by decide⟩ hfound

/-- **Files answer like the service, except that they do not refuse.**  A directory that can be read
has a file for a question, and the price service answers the question with the text of this file.
Then the directory answers with what the text says.  So does the service if the text does not refuse
the question; if it does, the service's answer is a fault with the words of the refusal. -/
theorem files_answer_like_service (network : Network σ) (config : ClientConfig)
    (directory : Directory) (query : Query) (text : String) (files service : SourceState σ)
    (hfiles : Source.ofDirectory directory = .ok files.source)
    (hservice : Source.ofClient config = .ok service.source)
    (htext : directory.text? query.fileName = some text)
    (hgives : network.Gives config service.network query text) :
    ∃ found, query.contentOf text = .ok found
      ∧ (ask network query files).1 = .ok found
      ∧ (query.refusal? text = none → (ask network query service).1 = .ok found)
      ∧ ∀ words, query.refusal? text = some words →
        (ask network query service).1 = .error (.rejected words) := by
  obtain ⟨fixtures, hload, hsource⟩ := Source.ofDirectory_eq_ok_iff.mp hfiles
  obtain ⟨found, hcontent, hfound⟩ := Fixtures.exists_contentOf hload htext
  have hclient := Source.eq_of_ofClient hservice
  have hask : (ask network query service).1
      = (query.refusal? text).elim (.ok found) (.error ∘ .rejected) := by
    rw [ask_client hclient]
    exact fetch_of_gives hgives hcontent
  refine ⟨found, hcontent, ?_, fun hnone => ?_, fun words hwords => ?_⟩
  · rw [ask_fixtures_eq network query hsource.symm]
    exact Fixtures.answer_eq_ok_iff.mpr hfound
  · rw [hask, hnone]
    rfl
  · rw [hask, hwords]
    rfl

/-- The stations of a municipality, from a file that says in its own way that all went well. -/
theorem file_answers_like_service :
    let text := "\x7b\"ResultadoConsulta\":\" ok \",\"ListaEESSPrecio\":[\x7b\"IDEESS\":7\x7d]\x7d"
    let directory : Directory := ⟨"files", .ok ⟨
      [("stations_municipality_4354.json", .file (.data (Text.Utf8.encode text.toList))),
        ("provinces.json", .file (.data (Text.Utf8.encode "[]".toList)))], none⟩⟩
    let network : Network Unit := .fixed fun _ => .answer 200 (some text)
    let query : Query := .stations (.municipality ⟨"4354", by decide⟩)
    ∃ source, Source.ofDirectory directory = .ok source
      ∧ (ask network query ⟨source, 0, (), []⟩).1
        = (ask network query ⟨.client ⟨"http://h", 1, 1⟩, 0, (), []⟩).1 := by
  intro text directory network query
  have hload : (Source.ofDirectory directory).toOption.isSome = true := by decide +kernel
  have hdestination :
      (ApiRequest.ofQuery ⟨"http://h", 1, 1⟩ query).destination.toOption.isSome = true := by
    decide +kernel
  obtain ⟨source, hsource⟩ := exists_eq_ok hload
  obtain ⟨found, -, hfiles, hservice, -⟩ :=
    files_answer_like_service network ⟨"http://h", 1, 1⟩ directory query text ⟨source, 0, (), []⟩
      ⟨.client ⟨"http://h", 1, 1⟩, 0, (), []⟩ hsource rfl (by decide +kernel)
      ⟨exists_eq_ok hdestination, rfl⟩
  exact ⟨source, hsource, hfiles.trans (hservice (by decide +kernel)).symm⟩

/-- **A refusal in a file goes unnoticed**: the files have a list of stations where the service that
sends the same text refuses the question. -/
theorem refused_file_is_answered :
    let text := "\x7b\"ListaEESSPrecio\":[],\"ResultadoConsulta\":\"KO\"\x7d"
    let directory : Directory := ⟨"files", .ok ⟨
      [("provinces.json", .file (.data (Text.Utf8.encode "[]".toList))),
        ("stations_province_28.json", .file (.data (Text.Utf8.encode text.toList)))], none⟩⟩
    let network : Network Unit := .fixed fun _ => .answer 200 (some text)
    let query : Query := .stations (.province ⟨"28", by decide⟩)
    directory.text? query.fileName = some text ∧ network.Gives ⟨"http://h", 1, 1⟩ () query text
      ∧ ∃ source, Source.ofDirectory directory = .ok source
        ∧ (ask network query ⟨source, 0, (), []⟩).1 = .ok ([] : List Station)
        ∧ (ask network query ⟨.client ⟨"http://h", 1, 1⟩, 0, (), []⟩).1
          = .error (.rejected "KO") := by
  intro text directory network query
  have hload : (Fixtures.load directory).toOption.isSome = true := by decide +kernel
  have hdestination :
      (ApiRequest.ofQuery ⟨"http://h", 1, 1⟩ query).destination.toOption.isSome = true := by
    decide +kernel
  have htext : directory.text? query.fileName = some text := by decide +kernel
  have hreply : (Json.decode StationsReply.decoder text).toOption = some ⟨[], some "KO"⟩ := by
    decide +kernel
  have hcontent : query.contentOf text = .ok ([] : List Station) :=
    map_eq_ok_iff.mpr ⟨_, toOption_eq_some_iff.mp hreply, rfl⟩
  have hrefusal : query.refusal? text = some "KO" := by
    rw [Query.refusal?, hreply]
    decide +kernel
  obtain ⟨fixtures, hfixtures⟩ := exists_eq_ok hload
  obtain ⟨found, hfound, hanswer⟩ := Fixtures.exists_contentOf hfixtures htext
  have hgives : network.Gives ⟨"http://h", 1, 1⟩ () query text := ⟨exists_eq_ok hdestination, rfl⟩
  refine ⟨htext, hgives, .fixtures fixtures,
    Source.ofDirectory_eq_ok_iff.mpr ⟨fixtures, hfixtures, rfl⟩, ?_, ?_⟩
  · rw [ask_fixtures_eq network query rfl]
    have hnone : found = ([] : List Station) := Except.ok.inj (hfound.symm.trans hcontent)
    exact (Fixtures.answer_eq_ok_iff.mpr hanswer).trans (congrArg Except.ok hnone)
  · rw [ask_client rfl, fetch_of_gives hgives hcontent, hrefusal]
    rfl

end SourceM

end StationFinder
