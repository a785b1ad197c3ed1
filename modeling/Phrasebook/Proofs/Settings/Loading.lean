import Mathlib
import Phrasebook.Proofs.CommandLine
import Phrasebook.Proofs.Settings.Entries
import Phrasebook.Proofs.Toml.Reading
import Phrasebook.Proofs.Utf8

/-! What loading a settings file ends in. Whatever the file holds, it is settings or a failure about
the configuration, but for two faults of its document that no failure stands for: an integer of too
many digits and values that nest too deeply. -/

namespace Phrasebook.Settings

variable {source : Option Text} {entries : List (Text × Given)} {d : Disk} {p : Path}
  {asked : Option Path} {bytes : Bytes} {f : Failure} {t : Trouble}

/-! ### Failures about the configuration -/

theorem code_of_check {draft : Draft} (h : draft.check = .error f) :
    f.diagnostic.code = .invalidConfig := by
  rcases check_cases draft with ⟨_, _, s, hs, _⟩ | ⟨f', hf', herr⟩
  · exact absurd h (by simp [hs])
  · obtain rfl : f' = f := Except.error.inj (herr.symm.trans h)
    cases hf' <;> rfl

theorem code_of_draftFrom {draft : Draft} (h : draftFrom source draft entries = .error f) :
    f.diagnostic.code = .invalidConfig := by
  fun_induction draftFrom source draft entries with
  | case1 => exact nomatch h
  | case2 | case3 => cases h; rfl
  | case4 _ _ _ _ _ _ ih => exact ih h

theorem code_of_ofEntries (h : ofEntries source entries = .error f) :
    f.diagnostic.code = .invalidConfig := by
  unfold ofEntries at h
  cases hd : draftFrom source {} entries with
  | error f' =>
    rw [hd] at h
    cases h
    exact code_of_draftFrom hd
  | ok draft =>
    rw [hd] at h
    exact code_of_check h

/-- An outcome that is settings or a failure about the configuration. -/
def Settled (o : Except Trouble Settings) : Prop :=
  (∃ s, o = .ok s) ∨ ∃ f, o = .error (.failure f) ∧ f.diagnostic.code = .invalidConfig

theorem settled_refuse (reason : Text) (p : Path) : Settled (refuse reason p) :=
  .inr ⟨_, rfl, rfl⟩

theorem settled_ofFailure {x : Except Failure Settings}
    (h : ∀ f, x = .error f → f.diagnostic.code = .invalidConfig) :
    Settled (Trouble.ofFailure x) := by
  cases x with
  | ok s => exact .inl ⟨s, rfl⟩
  | error f => exact .inr ⟨f, rfl, h f rfl⟩

/-! ### Documents -/

/-- The faults of a document that no failure stands for, and how they end the loading. -/
inductive Unreported : Toml.Fault → Trouble → Prop
  | oversized (digits : Nat) : Unreported (.oversized digits) (.oversized digits)
  | tooDeep : Unreported .tooDeep .tooDeep

/-- Bytes whose text, its line endings as newlines, has such a fault. -/
def Unread (bytes : Bytes) (t : Trouble) : Prop :=
  ∃ cs fault, bytes = Utf8.encodeChars cs ∧
    Toml.read (Toml.unifyNewlines [] cs) = .error fault ∧ Unreported fault t

theorem Unread.not_failure (h : Unread bytes t) (f : Failure) : t ≠ .failure f := by
  obtain ⟨cs, fault, _, _, hunreported⟩ := h
  rintro rfl
  cases hunreported

theorem Unread.not_settled (h : Unread bytes t) : ¬Settled (.error t) := by
  rintro (⟨s, hs⟩ | ⟨f, hf, _⟩)
  · exact nomatch hs
  · exact h.not_failure f (Except.error.inj hf)

theorem outcome_of_document (h : document p bytes = .error t) :
    (ofBytes p bytes).outcome = .error t := by
  unfold ofBytes
  rw [Traced.outcome_bind, h]
  rfl

/-- How a file ends the loading, once its document is read. -/
theorem outcome_of_held {held : Toml.Entries} (h : document p bytes = .ok held) :
    (ofBytes p bytes).outcome = match Section.of held with
      | .absent => Trouble.ofFailure standard
      | .notTable => refuse ("[tool." ++ Event.settingsTable ++ "] must be a table") p
      | .entries table => Trouble.ofFailure
          (ofEntries (some p.toText) (table.map fun e => (e.1, Given.ofToml e.2))) := by
  unfold ofBytes
  rw [Traced.outcome_bind, h]
  show Traced.outcome _ = _
  cases Section.of held <;> rfl

theorem settled_of_document {held : Toml.Entries} (h : document p bytes = .ok held) :
    Settled (ofBytes p bytes).outcome := by
  rw [outcome_of_held h]
  split
  · exact settled_ofFailure fun f => code_of_check
  · exact settled_refuse ..
  · exact settled_ofFailure fun f => code_of_ofEntries

theorem outcome_of_unread (h : Unread bytes t) (p : Path) :
    (ofBytes p bytes).outcome = .error t := by
  obtain ⟨cs, fault, hcs, hread, hunreported⟩ := h
  have hdecode := Utf8.decode_eq_ok.mpr hcs
  apply outcome_of_document
  cases hunreported <;> simp only [document, hdecode, hread]

theorem settled_of_read (h : ∀ t, ¬Unread bytes t) (p : Path) :
    Settled (ofBytes p bytes).outcome := by
  have hrefused (reason : Text) (h : document p bytes = refuse reason p) :
      Settled (ofBytes p bytes).outcome := by
    rw [outcome_of_document h]
    exact settled_refuse reason p
  cases hdecode : Utf8.decode bytes with
  | error e => exact hrefused e.message (by simp only [document, hdecode])
  | ok cs =>
    have hcs := Utf8.decode_eq_ok.mp hdecode
    cases hread : Toml.read (Toml.unifyNewlines [] cs) with
    | ok held =>
      have hdocument : document p bytes = .ok held := by simp only [document, hdecode, hread]
      exact settled_of_document hdocument
    | error fault =>
      cases fault with
      | misplaced complaint left => exact hrefused _ (by simp only [document, hdecode, hread]; rfl)
      | oversized digits => exact absurd ⟨cs, _, hcs, hread, .oversized digits⟩ (h _)
      | tooDeep => exact absurd ⟨cs, _, hcs, hread, .tooDeep⟩ (h _)

/-- A text without a long stretch of digits, whose brackets can all be open at once. -/
structure IsBounded (cs : List Char) : Prop where
  digits : ∀ n, Toml.HasDigits n cs → n ≤ Numeral.maxDigits
  weight : Toml.weight cs ≤ Toml.maxWeight

theorem Unread.not_bounded (h : Unread bytes t) :
    ∃ cs, bytes = Utf8.encodeChars cs ∧ ¬IsBounded (Toml.unifyNewlines [] cs) := by
  obtain ⟨cs, fault, hcs, hread, hunreported⟩ := h
  have hshown := Toml.shown_of_read hread
  refine ⟨cs, hcs, fun hbounded => ?_⟩
  cases hunreported with
  | oversized digits => exact absurd (hbounded.digits _ hshown.2) (not_le.mpr hshown.1)
  | tooDeep => exact absurd hbounded.weight (not_le.mpr hshown)

/-! ### Loading -/

theorem load_of_isFile (hfile : d.isFile (asked.getD defaultFile) = .ok true) :
    (∃ bytes, d.read (asked.getD defaultFile) = .ok bytes ∧
      load d asked = ofBytes (asked.getD defaultFile) bytes) ∨
    (∃ e, d.read (asked.getD defaultFile) = .error e ∧ Settled (load d asked).outcome) := by
  cases hread : d.read (asked.getD defaultFile) with
  | error e =>
    refine .inr ⟨e, rfl, ?_⟩
    simp only [load, hfile, hread]
    exact settled_refuse ..
  | ok bytes => exact .inl ⟨bytes, rfl, by simp only [load, hfile, hread]⟩

/-- Loading a file that exists ends in settings or in a failure about the configuration, unless its
text is read up to an integer with too many digits or to values that nest too deeply. This does not
happen where no stretch of digits is so long and the brackets can all be open at once; where it
does, it ends the run. A failure is reported with exit code 1. -/
theorem load_settled_iff (hfile : d.isFile (asked.getD defaultFile) = .ok true) :
    (Settled (load d asked).outcome ↔
      ∀ bytes t, d.read (asked.getD defaultFile) = .ok bytes → ¬Unread bytes t) ∧
    ((∀ cs, d.read (asked.getD defaultFile) = .ok (Utf8.encodeChars cs) →
      IsBounded (Toml.unifyNewlines [] cs)) → Settled (load d asked).outcome) ∧
    (∀ bytes t, d.read (asked.getD defaultFile) = .ok bytes → Unread bytes t →
      (load d asked).outcome = .error t) ∧
    ∀ (env : CommandLine.Environment) (arguments : List Text) (choices : CommandLine.Choices)
      (format : Diagnostic.Format), CommandLine.parse arguments = .ok choices →
      choices.format = some format → choices.settingsFile = .ok asked →
      CommandLine.Answers env arguments choices format asked d := by
  have hescapes : ∀ bytes t, d.read (asked.getD defaultFile) = .ok bytes → Unread bytes t →
      (load d asked).outcome = .error t := by
    intro bytes t hbytes hunread
    rcases load_of_isFile hfile with ⟨bytes', hbytes', hload⟩ | ⟨e, he, _⟩
    · obtain rfl : bytes = bytes' := Except.ok.inj (hbytes.symm.trans hbytes')
      rw [hload]
      exact outcome_of_unread hunread _
    · exact absurd hbytes (by simp [he])
  have hsettles (h : ∀ bytes t, d.read (asked.getD defaultFile) = .ok bytes → ¬Unread bytes t) :
      Settled (load d asked).outcome := by
    rcases load_of_isFile hfile with ⟨bytes, hbytes, hload⟩ | ⟨_, _, hsettled⟩
    · rw [hload]
      exact settled_of_read (fun t => h bytes t hbytes) _
    · exact hsettled
  refine ⟨⟨fun hsettled bytes t hbytes hunread => ?_, hsettles⟩, fun hbounded => ?_, hescapes, ?_⟩
  · rw [hescapes bytes t hbytes hunread] at hsettled
    exact hunread.not_settled hsettled
  · refine hsettles fun bytes t hbytes hunread => ?_
    obtain ⟨cs, rfl, hnot⟩ := hunread.not_bounded
    exact hnot (hbounded cs hbytes)
  · exact fun env arguments choices format => CommandLine.run_answers

/-- A disk with a settings file at the default place. -/
def diskWith (text : List Char) : Disk :=
  ⟨.directory [("pyproject.toml", .file (Utf8.encodeChars text))], []⟩

theorem load_settled_iff_numbered :
    (diskWith "[tool.typedloc]\ntemplate = 3\n".toList).isFile defaultFile = .ok true ∧
    Settled (load (diskWith "[tool.typedloc]\ntemplate = 3\n".toList) none).outcome := by
  have hfile : (diskWith "[tool.typedloc]\ntemplate = 3\n".toList).isFile
      ((none : Option Path).getD defaultFile) = .ok true := rfl
  refine ⟨hfile, (load_settled_iff hfile).2.1 fun cs hcs => ?_⟩
  have hread : Utf8.encodeChars cs = Utf8.encodeChars "[tool.typedloc]\ntemplate = 3\n".toList :=
    (Except.ok.inj hcs).symm
  obtain rfl : cs = "[tool.typedloc]\ntemplate = 3\n".toList :=
    Except.ok.inj ((Utf8.decode_eq_ok.mpr hread.symm).symm.trans (Utf8.decode_eq_ok.mpr rfl))
  exact ⟨fun n hn => hn.le_length.trans (by decide), by decide⟩

/-- An integer of 4301 digits in the settings file ends every run that looks there. -/
theorem not_settled_longInteger :
    (diskWith (Toml.longInteger 4301)).isFile defaultFile = .ok true ∧
    ¬Settled (load (diskWith (Toml.longInteger 4301)) none).outcome ∧
    ∀ env, CommandLine.run env [] (diskWith (Toml.longInteger 4301)) =
      (diskWith (Toml.longInteger 4301), .error (.oversized 4301)) := by
  have hunread : Unread (Utf8.encodeChars (Toml.longInteger 4301)) (.oversized 4301) := by
    refine ⟨_, _, rfl, ?_, .oversized 4301⟩
    rw [Toml.unifyNewlines_of_notMem (Toml.return_notMem_longInteger 4301)]
    exact Toml.read_longInteger (by decide)
  have hload : load (diskWith (Toml.longInteger 4301)) none =
      ofBytes defaultFile (Utf8.encodeChars (Toml.longInteger 4301)) := rfl
  have houtcome : (load (diskWith (Toml.longInteger 4301)) none).outcome =
      .error (.oversized 4301) := by
    rw [hload]
    exact outcome_of_unread hunread _
  refine ⟨rfl, ?_, fun env => ?_⟩
  · rw [houtcome]
    exact hunread.not_settled
  · have hanswers : CommandLine.Answers env [] {} .line none (diskWith (Toml.longInteger 4301)) :=
      CommandLine.run_answers rfl rfl rfl
    exact hanswers.escapes _ hunread.not_failure houtcome

end Phrasebook.Settings
