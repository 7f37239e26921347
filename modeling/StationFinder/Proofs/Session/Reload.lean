import StationFinder.Proofs.Source.StandIn
import StationFinder.Session

/-!
# Proofs/Session/Reload — files that are read again

A directory of files may be read again in the course of a session, from another place.  At each
moment the source has what one directory says: the last one that could be read
(`Session.inUse`).  So every answer is that of a new source which is made from this directory,
and a directory that cannot be read leaves no trace but the fault that is told
(`Session.answers_from_latest_directory`).
-/

namespace StationFinder

variable {σ α : Type} {network network' : Network σ} {fixtures : Fixtures} {directory : Directory}
  {state state' : SourceState σ} {step : Step σ} {steps : List (Step σ)}

/-! ## The directory in use -/

/-- The directory in use after a step: the one that is read, if it can be, and otherwise the one
before. -/
def Step.inUse (directory : Directory) : Step σ → Directory
  | .reload fresh => if (Source.ofDirectory fresh).isOk then fresh else directory
  | _ => directory

/-- The directory in use after some steps: the last one that could be read. -/
def Session.inUse (directory : Directory) (steps : List (Step σ)) : Directory :=
  steps.foldl Step.inUse directory

theorem Step.inUse_of_ok {fresh : Directory} {source : Source}
    (h : Source.ofDirectory fresh = .ok source) (directory : Directory) :
    (Step.reload fresh : Step σ).inUse directory = fresh := by
  rw [inUse, h]
  rfl

theorem Step.inUse_of_error {faulty : Directory} {fault : SourceFault}
    (h : Source.ofDirectory faulty = .error fault) (directory : Directory) :
    (Step.reload faulty : Step σ).inUse directory = directory := by
  rw [inUse, h]
  rfl

/-! ## Questions to files -/

/-- What an inquiry comes to over files depends on nothing but the files and the clock, and it
changes nothing. -/
theorem Inquiry.run_fixtures (network network' : Network σ) (clock : Option Instant)
    (inquiry : Inquiry α) (h : state.source = .fixtures fixtures)
    (h' : state'.source = .fixtures fixtures) :
    (inquiry.run network clock state).1 = (inquiry.run network' clock state').1
      ∧ (inquiry.run network clock state).2 = state := by
  induction inquiry with
  | done a => exact ⟨rfl, rfl⟩
  | asks query next ih =>
    have hrun (network : Network σ) (state : SourceState σ) :
        (asks query next).run network clock state
          = (next (SourceM.ask network query state).1).run network clock
            (SourceM.ask network query state).2 := rfl
    rw [hrun, hrun, SourceM.ask_fixtures_eq network query h,
      SourceM.ask_fixtures_eq network' query h']
    exact ih _
  | looks next ih =>
    cases clock with
    | some t => exact ih t
    | none => exact ⟨rfl, rfl⟩

namespace SourceM

theorem reload_of_ok {fresh : Directory} {source : Source} (h : state.source = .fixtures fixtures)
    (hfresh : Source.ofDirectory fresh = .ok source) :
    reload fresh state = (.ok (), { state with source := source }) := by
  simp only [reload, h, hfresh]

/-- **A directory that cannot be read changes nothing.** -/
theorem reload_of_error {faulty : Directory} {fault : SourceFault}
    (h : state.source = .fixtures fixtures) (hfaulty : Source.ofDirectory faulty = .error fault) :
    reload faulty state = (.error fault, state) := by
  simp only [reload, h, hfaulty]

/-- Files make no room. -/
theorem evict_of_fixtures (province : ProvinceId) (h : state.source = .fixtures fixtures) :
    (evict province state).2 = state := by
  obtain ⟨source, clock, memory, sent⟩ := state
  cases h
  rfl

end SourceM

namespace Session

/-- **A step is answered from the files**, whatever else the state of the source may be. -/
theorem answer_of_fixtures (network network' : Network σ) (step : Step σ)
    (h : state.source = .fixtures fixtures) (h' : state'.source = .fixtures fixtures) :
    (Session.step network step state).1 = (Session.step network' step state').1 := by
  have hask (query : Query) :
      (SourceM.ask network query state).1 = (SourceM.ask network' query state').1 := by
    rw [SourceM.ask_fixtures_eq network query h, SourceM.ask_fixtures_eq network' query h']
  cases step with
  | provinces => exact congrArg Answer.provinces (hask .provinces)
  | municipalities province =>
    exact congrArg Answer.municipalities (hask (.municipalities province))
  | stations scope => exact congrArg Answer.stations (hask (.stations scope))
  | visit clock assets request =>
    have hrun :=
      Inquiry.run_fixtures network network' clock (Server.respond assets request) h h'
    exact congrArg (fun value => (value.map Answer.response).getD .breakdown) hrun.1
  | reload fresh =>
    refine congrArg Answer.reloaded ?_
    show (SourceM.reload fresh state).1 = (SourceM.reload fresh state').1
    rcases hfresh : Source.ofDirectory fresh with fault | source
    · rw [SourceM.reload_of_error h hfresh, SourceM.reload_of_error h' hfresh]
    · rw [SourceM.reload_of_ok h hfresh, SourceM.reload_of_ok h' hfresh]
  | advance nanoseconds => rfl
  | evict province => rfl
  | rewire change => rfl

/-- **A step leaves the directory that is in use afterwards.**  Only a reload can change it. -/
theorem ofDirectory_step (network : Network σ) (step : Step σ)
    (h : Source.ofDirectory directory = .ok state.source) :
    Source.ofDirectory (step.inUse directory) = .ok (Session.step network step state).2.source := by
  obtain ⟨fixtures, -, hsource⟩ := Source.ofDirectory_eq_ok_iff.mp h
  have hask (query : Query) :
      Source.ofDirectory directory = .ok (SourceM.ask network query state).2.source := by
    rw [SourceM.ask_fixtures hsource.symm]
    exact h
  cases step with
  | provinces => exact hask .provinces
  | municipalities province => exact hask (.municipalities province)
  | stations scope => exact hask (.stations scope)
  | visit clock assets request =>
    have hrun := Inquiry.run_fixtures network network clock (Server.respond assets request)
      hsource.symm hsource.symm
    show _ = Except.ok ((Server.respond assets request).run network clock state).2.source
    rw [hrun.2]
    exact h
  | reload fresh =>
    show _ = Except.ok (SourceM.reload fresh state).2.source
    rcases hfresh : Source.ofDirectory fresh with fault | source
    · rw [SourceM.reload_of_error hsource.symm hfresh, Step.inUse_of_error hfresh]
      exact h
    · rw [SourceM.reload_of_ok hsource.symm hfresh, Step.inUse_of_ok hfresh]
      exact hfresh
  | advance nanoseconds => exact h
  | evict province =>
    show _ = Except.ok (SourceM.evict province state).2.source
    rw [SourceM.evict_of_fixtures province hsource.symm]
    exact h
  | rewire change => exact h

theorem run_append (network : Network σ) (steps steps' : List (Step σ)) (state : SourceState σ) :
    run network (steps ++ steps') state
      = ((run network steps state).1 ++ (run network steps' (run network steps state).2).1,
        (run network steps' (run network steps state).2).2) := by
  rw [run, List.mapM_append]
  rfl

theorem run_cons (network : Network σ) (step : Step σ) (steps : List (Step σ))
    (state : SourceState σ) : run network (step :: steps) state
      = ((Session.step network step state).1 ::
          (run network steps (Session.step network step state).2).1,
        (run network steps (Session.step network step state).2).2) := by
  rw [run, List.mapM_cons]
  rfl

theorem length_run (network : Network σ) (steps : List (Step σ)) (state : SourceState σ) :
    (run network steps state).1.length = steps.length := by
  induction steps generalizing state with
  | nil => rfl
  | cons step steps ih => rw [run_cons, List.length_cons, List.length_cons, ih]

/-- **After some steps the source has what the directory in use says.** -/
theorem ofDirectory_run (network : Network σ) (steps : List (Step σ))
    (h : Source.ofDirectory directory = .ok state.source) :
    Source.ofDirectory (inUse directory steps) = .ok (run network steps state).2.source := by
  induction steps generalizing directory state with
  | nil => exact h
  | cons step steps ih =>
    rw [run_cons]
    exact ih (ofDirectory_step network step h)

/-- The answer to a step stands behind those to the steps before it. -/
theorem getElem?_run (network : Network σ) (before after : List (Step σ)) (step : Step σ)
    (start : SourceState σ) : (run network (before ++ step :: after) start).1[before.length]?
      = some (Session.step network step (run network before start).2).1 := by
  rw [run_append, run_cons]
  have hlength := length_run network before start
  rw [List.getElem?_append_right (Nat.le_of_eq hlength), hlength, Nat.sub_self]
  rfl

/-- **A directory that cannot be read leaves no trace** but the fault that is told. -/
theorem run_reload_of_error (network : Network σ) (before after : List (Step σ))
    (hstart : Source.ofDirectory directory = .ok state.source) {faulty : Directory}
    {fault : SourceFault} (hfaulty : Source.ofDirectory faulty = .error fault) :
    run network (before ++ .reload faulty :: after) state
      = ((run network before state).1 ++ .reloaded (.error fault)
          :: (run network after (run network before state).2).1,
        (run network (before ++ after) state).2) := by
  have hbefore := ofDirectory_run network before hstart
  obtain ⟨fixtures, -, hsource⟩ := Source.ofDirectory_eq_ok_iff.mp hbefore
  have hstep : Session.step network (.reload faulty) (run network before state).2
      = (.reloaded (.error fault), (run network before state).2) := by
    show (Answer.reloaded (SourceM.reload faulty _).1, (SourceM.reload faulty _).2) = _
    rw [SourceM.reload_of_error hsource.symm hfaulty]
  rw [run_append, run_cons, hstep, run_append]

/-- **Where a directory was read, nothing is found that is not in its files.** -/
theorem exists_text_of_reload (network : Network σ) (before : List (Step σ))
    (hstart : Source.ofDirectory directory = .ok state.source) {fresh : Directory} {source : Source}
    (hfresh : Source.ofDirectory fresh = .ok source) {query : Query} {found : query.Found}
    (h : (SourceM.ask network query (run network (before ++ [.reload fresh]) state).2).1
      = .ok found) :
    ∃ text, fresh.text? query.fileName = some text ∧ query.contentOf text = .ok found := by
  have hafter := ofDirectory_run network (before ++ [.reload fresh]) hstart
  have hinUse : inUse directory (before ++ [.reload fresh]) = fresh := by
    rw [inUse, List.foldl_append]
    exact (Step.inUse_of_ok hfresh _ : (Step.reload fresh : Step σ).inUse _ = fresh)
  rw [hinUse] at hafter
  obtain ⟨fixtures, hload, hsource⟩ := Source.ofDirectory_eq_ok_iff.mp hafter
  rw [SourceM.ask_fixtures_eq network query hsource.symm, Fixtures.answer_eq_ok_iff,
    Fixtures.find?_of_load hload] at h
  obtain ⟨text, htext, hfound⟩ := Option.bind_eq_some_iff.mp h
  exact ⟨text, htext, toOption_eq_some_iff.mp hfound⟩

/-- **Every answer is that of a new source**, made from the last directory that could be read.  In
particular, where a directory cannot be read, all other answers are those that there would have been
without it; and where one can be read, nothing is found in the source that is not in its files. -/
theorem answers_from_latest_directory (network : Network σ) (directory : Directory)
    (start : SourceState σ) (hstart : Source.ofDirectory directory = .ok start.source)
    (before after : List (Step σ)) :
    (∀ step, ∃ latest, Source.ofDirectory (inUse directory before) = .ok latest
      ∧ ∀ (network' : Network σ) clock memory sent,
        (run network (before ++ step :: after) start).1[before.length]?
          = some (Session.step network' step ⟨latest, clock, memory, sent⟩).1)
      ∧ (∀ faulty fault, Source.ofDirectory faulty = .error fault → ∃ first rest,
        first.length = before.length
          ∧ (run network (before ++ after) start).1 = first ++ rest
          ∧ (run network (before ++ .reload faulty :: after) start).1
            = first ++ .reloaded (.error fault) :: rest)
      ∧ (∀ fresh source, Source.ofDirectory fresh = .ok source → ∀ (query : Query) found,
        (SourceM.ask network query (run network (before ++ [.reload fresh]) start).2).1
            = .ok found →
          ∃ text, fresh.text? query.fileName = some text ∧ query.contentOf text = .ok found) := by
  refine ⟨fun step => ?latest, fun faulty fault hfaulty => ?faulty,
    fun fresh source hfresh query found => exists_text_of_reload network before hstart hfresh⟩
  case latest =>
    have hbefore := ofDirectory_run network before hstart
    obtain ⟨fixtures, -, hsource⟩ := Source.ofDirectory_eq_ok_iff.mp hbefore
    refine ⟨_, hbefore, fun network' clock memory sent => ?_⟩
    rw [getElem?_run]
    exact congrArg some (answer_of_fixtures network network' step hsource.symm hsource.symm)
  case faulty =>
    refine ⟨_, _, length_run network before start, by rw [run_append], ?_⟩
    rw [run_reload_of_error network before after hstart hfaulty]

/-- A directory is gone when it should be read again, and the provinces are those of before. -/
theorem answers_after_missing_directory :
    let files : Directory := ⟨"files",
      .ok ⟨[("provinces.json", .file (.data (Text.Utf8.encode "[]".toList)))], none⟩⟩
    let gone : Directory := ⟨"gone", .error "No such file or directory (os error 2)"⟩
    ∃ source fault, Source.ofDirectory files = .ok source ∧ Source.ofDirectory gone = .error fault
      ∧ (run .unreachable [.reload gone, .provinces] ⟨source, 0, (), []⟩).1
        = .reloaded (.error fault) :: (run .unreachable [.provinces] ⟨source, 0, (), []⟩).1 := by
  intro files gone
  have hload : (Source.ofDirectory files).toOption.isSome = true := by decide +kernel
  obtain ⟨source, hsource⟩ := exists_eq_ok hload
  obtain ⟨-, hfaulty, -⟩ :=
    answers_from_latest_directory .unreachable files ⟨source, 0, (), []⟩ hsource [] [.provinces]
  obtain ⟨first, rest, hfirst, hwithout, hwith⟩ := hfaulty gone _ rfl
  obtain rfl := List.eq_nil_of_length_eq_zero hfirst
  refine ⟨source, _, hsource, rfl, hwith.trans ?_⟩
  rw [List.nil_append, List.nil_append] at hwithout
  rw [List.nil_append, hwithout]

end Session

end StationFinder
