import Mathlib
import Phrasebook.CommandLine.Run
import Phrasebook.Proofs.Outcome

/-! How a run from the command line ends: by its exit code, by what it prints and by the disk. -/

namespace Phrasebook.CommandLine

variable {env : Environment} {arguments : List Text} {choices : Choices} {d : Disk}
  {format : Diagnostic.Format} {asked : Option Path} {f : Failure} {t : Trouble} {s : Settings}

/-- A run that fails prints the events before, and then the diagnostic. -/
theorem run_of_failure (hparse : parse arguments = .ok choices)
    (hformat : choices.format = some format)
    (h : (perform env choices d).2.outcome = .error (.failure f)) :
    run env arguments d = ((perform env choices d).1,
      .ok ⟨1, [], eventLines choices.verbose (perform env choices d).2.events ++
        f.diagnostic.formatted format env.isTerminal ++ "\n"⟩) := by
  simp only [run, hparse, hformat, h]

theorem run_of_trouble (hparse : parse arguments = .ok choices)
    (hformat : choices.format = some format)
    (h : (perform env choices d).2.outcome = .error t) (ht : ∀ f, t ≠ .failure f) :
    run env arguments d = ((perform env choices d).1, .error t) := by
  simp only [run, hparse, hformat, h]

theorem run_of_success (hparse : parse arguments = .ok choices)
    (hformat : choices.format = some format) (h : (perform env choices d).2.outcome = .ok ()) :
    run env arguments d = ((perform env choices d).1,
      .ok ⟨0, [], eventLines choices.verbose (perform env choices d).2.events⟩) := by
  simp only [run, hparse, hformat, h]

/-! ### Settings -/

/-- The generator of a run that has loaded its settings. -/
def generator (env : Environment) (s : Settings) : Generator :=
  { settings := s, source := .display env.data }

theorem loaded_eq (hasked : choices.settingsFile = .ok asked) :
    (Traced.ofExcept choices.settingsFile >>= Settings.load d) = Settings.load d asked := by
  rw [hasked]
  show Traced.bind ⟨[], .ok asked⟩ _ = _
  simp [Traced.bind]

/-- Settings that cannot be loaded end a run before it touches the disk. -/
theorem perform_of_error (env : Environment) (hasked : choices.settingsFile = .ok asked)
    (h : (Settings.load d asked).outcome = .error t) :
    (perform env choices d).1 = d ∧ (perform env choices d).2.outcome = .error t ∧
      (perform env choices d).2.events = (Settings.load d asked).events := by
  have hperform : perform env choices d = (d, Settings.load d asked >>= fun _ => pure ()) := by
    unfold perform
    simp only [loaded_eq hasked, h]
  rw [hperform]
  refine ⟨rfl, ?_, ?_⟩
  · rw [Traced.outcome_bind, h]
    rfl
  · show (Traced.bind _ _).events = _
    simp [Traced.bind, h]

theorem perform_of_settings (env : Environment) (hasked : choices.settingsFile = .ok asked)
    (h : (Settings.load d asked).outcome = .ok s) :
    (perform env choices d).2.outcome =
      ((generator env s).run env.tags choices.check d).2.outcome.map fun _ => () := by
  unfold perform
  simp only [loaded_eq hasked, h, Traced.outcome_bind]
  show ((generator env s).run env.tags choices.check d).2.outcome >>= _ = _
  cases ((generator env s).run env.tags choices.check d).2.outcome <;> rfl

/-- How a run answers what the loading of its settings gives. -/
structure Answers (env : Environment) (arguments : List Text) (choices : Choices)
    (format : Diagnostic.Format) (asked : Option Path) (d : Disk) : Prop where
  exits : ∀ answer, (run env arguments d).2 = .ok answer →
    answer.exitCode = 0 ∨ answer.exitCode = 1
  reports : ∀ f, (Settings.load d asked).outcome = .error (.failure f) →
    run env arguments d = (d, .ok ⟨1, [],
      eventLines choices.verbose (Settings.load d asked).events ++
        f.diagnostic.formatted format env.isTerminal ++ "\n"⟩)
  escapes : ∀ t, (∀ f, t ≠ .failure f) → (Settings.load d asked).outcome = .error t →
    run env arguments d = (d, .error t)
  generates : ∀ s t, (Settings.load d asked).outcome = .ok s →
    (run env arguments d).2 = .error t →
      ((generator env s).run env.tags choices.check d).2.outcome = .error t

theorem run_answers (hparse : parse arguments = .ok choices)
    (hformat : choices.format = some format) (hasked : choices.settingsFile = .ok asked) :
    Answers env arguments choices format asked d where
  exits answer hrun := by
    cases h : (perform env choices d).2.outcome with
    | ok _ =>
      rw [run_of_success hparse hformat h] at hrun
      cases hrun
      exact .inl rfl
    | error t =>
      by_cases ht : ∃ f, t = .failure f
      · obtain ⟨f, rfl⟩ := ht
        rw [run_of_failure hparse hformat h] at hrun
        cases hrun
        exact .inr rfl
      · rw [run_of_trouble hparse hformat h fun f hf => ht ⟨f, hf⟩] at hrun
        exact nomatch hrun
  reports f h := by
    obtain ⟨hdisk, houtcome, hevents⟩ := perform_of_error env hasked h
    rw [run_of_failure hparse hformat houtcome, hdisk, hevents]
  escapes t ht h := by
    obtain ⟨hdisk, houtcome, _⟩ := perform_of_error env hasked h
    rw [run_of_trouble hparse hformat houtcome ht, hdisk]
  generates s t h hrun := by
    have hperform := perform_of_settings env hasked h
    cases hg : ((generator env s).run env.tags choices.check d).2.outcome with
    | ok g =>
      rw [hg] at hperform
      rw [run_of_success hparse hformat hperform] at hrun
      exact nomatch hrun
    | error t' =>
      rw [hg] at hperform
      by_cases ht : ∃ f, t' = .failure f
      · obtain ⟨f, rfl⟩ := ht
        rw [run_of_failure hparse hformat hperform] at hrun
        exact nomatch hrun
      · rw [run_of_trouble hparse hformat hperform fun f hf => ht ⟨f, hf⟩] at hrun
        cases hrun
        rfl

end Phrasebook.CommandLine
