import Mathlib
import Phrasebook.Failure.Report
import Phrasebook.Proofs.Settings.Loading
import Phrasebook.Proofs.Toml.Keys

/-! What is said of a settings file that makes no settings. All of it names the file, but for what
is said of the template and of the class prefix: they are checked after the entries have become a
draft, and a draft does not know where it is from. -/

namespace Phrasebook.Settings

variable {source : Option Text} {entries entries' : List (Text × Given)} {e : Text × Given}
  {values : Name → Text} {d : Disk} {p : Path} {asked : Option Path} {bytes : Bytes}
  {f f' : Failure} {held held' : Toml.Entries}

/-! ### Refused entries -/

theorem Misfit.draftFrom_cons (h : Misfit source e f) (draft : Draft)
    (entries : List (Text × Given)) : draftFrom source draft (e :: entries) = .error f := by
  cases h with
  | unknown h => simp [draftFrom, ofLabel?_eq_none.mpr h]
  | notText => simp [draftFrom, ofLabel?_eq_some.mpr rfl]

theorem Misfit.unique (h : Misfit source e f) (h' : Misfit source e f') : f = f' :=
  Except.error.inj ((h.draftFrom_cons {} []).symm.trans (h'.draftFrom_cons {} []))

theorem Misvalued.unique (h : Misvalued values f) (h' : Misvalued values f') : f = f' := by
  cases h with
  | template htemplate =>
    cases h' with
    | template _ => rfl
    | classPrefix htemplate' _ => exact absurd htemplate' htemplate
  | classPrefix htemplate _ =>
    cases h' with
    | template htemplate' => exact absurd htemplate htemplate'
    | classPrefix _ _ => rfl

theorem Refusal.unique (h : Refusal source entries f) (h' : Refusal source entries f') :
    f = f' := by
  cases h with
  | entry first h =>
    cases h' with
    | entry first' h' =>
      obtain rfl := first.unique first'
      exact h.unique h'
    | value fits _ => exact absurd (fits _ first.mem) first.holds
  | value fits h =>
    cases h' with
    | entry first _ => exact absurd (fits _ first.mem) first.holds
    | value _ h' => exact h.unique h'

theorem ofEntries_eq_error_iff (hmapping : (entries.map (·.1)).Nodup) :
    ofEntries source entries = .error f ↔ Refusal source entries f := by
  rcases ofEntries_cases hmapping source with ⟨haccept, s, hs, _⟩ | ⟨f', hf', herr⟩
  · exact iff_of_false (by simp [hs]) fun h => h.not_acceptable haccept
  · rw [herr]
    constructor
    · rintro ⟨⟩
      exact hf'
    · intro h
      rw [hf'.unique h]

/-- A refused entry is reported with its file, refused values are reported without one. -/
theorem Refusal.sourcePath_cases (h : Refusal source entries f) :
    ((∃ e ∈ entries, ¬Fits e) ∧ f.diagnostic.sourcePath = source) ∨
    ((∀ e ∈ entries, Fits e) ∧ f.diagnostic.sourcePath = none) := by
  cases h with
  | entry first h =>
    refine .inl ⟨⟨_, first.mem, first.holds⟩, ?_⟩
    cases h <;> rfl
  | value fits h =>
    refine .inr ⟨fits, ?_⟩
    cases h <;> rfl

theorem Refusal.kind_eq (h : Refusal source entries f) : f.kind = .settings := by
  cases h with
  | entry _ h => cases h <;> rfl
  | value _ h => cases h <;> rfl

/-! ### What a file holds -/

/-- Bytes whose text, its line endings as newlines, is a document. -/
def IsDocument (bytes : Bytes) (held : Toml.Entries) : Prop :=
  ∃ cs, bytes = Utf8.encodeChars cs ∧ Toml.read (Toml.unifyNewlines [] cs) = .ok held

/-- What bytes give to settings: the entries of the table in their document. -/
def GivesEntries (bytes : Bytes) (entries : List (Text × Given)) : Prop :=
  ∃ held table, IsDocument bytes held ∧ Section.of held = .entries table ∧
    entries = table.map fun e => (e.1, Given.ofToml e.2)

/-- Bytes whose entries all give texts to settings, but not such as make settings. -/
def Misvalues (bytes : Bytes) : Prop :=
  ∃ entries, GivesEntries bytes entries ∧ (∀ e ∈ entries, Fits e) ∧ ¬Acceptable entries

/-- What is said of bytes that hold no document. -/
inductive DocumentRefusal (p : Path) (bytes : Bytes) : Failure → Prop
  | undecodable {e : Utf8.DecodeError} (h : Utf8.decode bytes = .error e) :
      DocumentRefusal p bytes (.invalidSettings e.message (some p.toText))
  | malformed {cs : List Char} {complaint : Toml.Complaint} {left : Nat}
      (hcs : bytes = Utf8.encodeChars cs)
      (hread : Toml.read (Toml.unifyNewlines [] cs) = .error (.misplaced complaint left)) :
      DocumentRefusal p bytes
        (.invalidSettings (complaint.message (Toml.unifyNewlines [] cs) left) (some p.toText))

theorem document_eq_ok_iff : document p bytes = .ok held ↔ IsDocument bytes held := by
  constructor
  · intro h
    unfold document at h
    split at h
    next => exact nomatch h
    next cs hdecode =>
      dsimp only at h
      split at h
      next entries hread =>
        cases h
        exact ⟨cs, Utf8.decode_eq_ok.mp hdecode, hread⟩
      next => exact nomatch h
      next => exact nomatch h
      next => exact nomatch h
  · rintro ⟨cs, hcs, hread⟩
    simp only [document, Utf8.decode_eq_ok.mpr hcs, hread]

theorem document_eq_failure_iff :
    document p bytes = .error (.failure f) ↔ DocumentRefusal p bytes f := by
  constructor
  · intro h
    unfold document at h
    split at h
    next e hdecode =>
      cases h
      exact .undecodable hdecode
    next cs hdecode =>
      dsimp only at h
      split at h
      next => exact nomatch h
      next complaint left hread =>
        cases h
        exact .malformed (Utf8.decode_eq_ok.mp hdecode) hread
      next => exact nomatch h
      next => exact nomatch h
  · intro h
    cases h with
    | undecodable h =>
      simp only [document, h]
      rfl
    | malformed hcs hread =>
      simp only [document, Utf8.decode_eq_ok.mpr hcs, hread]
      rfl

theorem IsDocument.unique (h : IsDocument bytes held) (h' : IsDocument bytes held') :
    held = held' := by
  have hdocument := document_eq_ok_iff (p := defaultFile).mpr h
  exact Except.ok.inj (hdocument.symm.trans (document_eq_ok_iff.mpr h'))

theorem GivesEntries.unique (h : GivesEntries bytes entries) (h' : GivesEntries bytes entries') :
    entries = entries' := by
  obtain ⟨held, table, hheld, htable, rfl⟩ := h
  obtain ⟨held', table', hheld', htable', rfl⟩ := h'
  obtain rfl := hheld.unique hheld'
  rw [Section.entries.inj (htable.symm.trans htable')]

theorem hasDistinctKeys_section {table : Toml.Entries} (h : held.HasDistinctKeys)
    (htable : Section.of held = .entries table) : table.HasDistinctKeys := by
  unfold Section.of at htable
  split at htable
  next tool htool =>
    have htool := Toml.Value.hasDistinctKeys_table.mp (h.of_lookup htool)
    split at htable
    next => exact nomatch htable
    next found hfound =>
      cases htable
      exact Toml.Value.hasDistinctKeys_table.mp (htool.of_lookup hfound)
    next => exact nomatch htable
  next => exact nomatch htable

/-- A file gives at most one value to a setting. -/
theorem GivesEntries.nodup (h : GivesEntries bytes entries) : (entries.map (·.1)).Nodup := by
  obtain ⟨held, table, ⟨cs, _, hread⟩, htable, rfl⟩ := h
  have hdistinct := hasDistinctKeys_section (Toml.hasDistinctKeys_of_read hread) htable
  rw [List.map_map]
  exact (Toml.Entries.hasDistinctKeys_iff.mp hdistinct).1

/-! ### Refused files -/

/-- What is said of a file that makes no settings. -/
inductive FileRefusal (p : Path) (bytes : Bytes) : Failure → Prop
  | document {f : Failure} (h : DocumentRefusal p bytes f) : FileRefusal p bytes f
  | notTable {held : Toml.Entries} (h : IsDocument bytes held)
      (hsection : Section.of held = .notTable) :
      FileRefusal p bytes
        (.invalidSettings ("[tool." ++ Event.settingsTable ++ "] must be a table") (some p.toText))
  | entries {entries : List (Text × Given)} {f : Failure} (h : GivesEntries bytes entries)
      (hf : Refusal (some p.toText) entries f) : FileRefusal p bytes f

theorem exists_standard : ∃ s, standard = .ok s := by
  rcases check_cases {} with ⟨_, _, s, hs, _⟩ | ⟨f, hf, _⟩
  · exact ⟨s, hs⟩
  · cases hf with
    | template h => exact absurd (isFileName_iff.mp (by decide)) h
    | classPrefix _ h => exact absurd h (by decide +kernel)

theorem refusal_of_ofBytes (h : (ofBytes p bytes).outcome = .error (.failure f)) :
    FileRefusal p bytes f := by
  cases hdocument : document p bytes with
  | error t =>
    rw [outcome_of_document hdocument] at h
    obtain rfl := Except.error.inj h
    exact .document (document_eq_failure_iff.mp hdocument)
  | ok held =>
    have hheld := document_eq_ok_iff.mp hdocument
    rw [outcome_of_held hdocument] at h
    cases hsection : Section.of held with
    | absent =>
      obtain ⟨s, hs⟩ := exists_standard
      rw [hsection, hs] at h
      exact nomatch h
    | notTable =>
      rw [hsection] at h
      cases h
      exact .notTable hheld hsection
    | entries table =>
      rw [hsection] at h
      have hgives : GivesEntries bytes _ := ⟨held, table, hheld, hsection, rfl⟩
      exact .entries hgives ((ofEntries_eq_error_iff hgives.nodup).mp (ofFailure_eq_error.mp h))

theorem FileRefusal.outcome_eq (h : FileRefusal p bytes f) :
    (ofBytes p bytes).outcome = .error (.failure f) := by
  cases h with
  | document h => exact outcome_of_document (document_eq_failure_iff.mpr h)
  | notTable h hsection =>
    rw [outcome_of_held (document_eq_ok_iff.mpr h), hsection]
    rfl
  | entries h hf =>
    have herr := (ofEntries_eq_error_iff h.nodup).mpr hf
    obtain ⟨held, table, hheld, hsection, rfl⟩ := h
    rw [outcome_of_held (document_eq_ok_iff.mpr hheld), hsection]
    exact ofFailure_eq_error.mpr herr

theorem FileRefusal.kind_eq (h : FileRefusal p bytes f) : f.kind = .settings := by
  cases h with
  | document h => cases h <;> rfl
  | notTable _ _ => rfl
  | entries _ hf => exact hf.kind_eq

theorem FileRefusal.sourcePath_cases (h : FileRefusal p bytes f) :
    (¬Misvalues bytes ∧ f.diagnostic.sourcePath = some p.toText) ∨
    (Misvalues bytes ∧ f.diagnostic.sourcePath = none) := by
  cases h with
  | document h =>
    have hpath : f.diagnostic.sourcePath = some p.toText := by cases h <;> rfl
    refine .inl ⟨?_, hpath⟩
    rintro ⟨_, ⟨held, _, hheld, _⟩, _⟩
    have hdocument : Settings.document p bytes = .ok held := document_eq_ok_iff.mpr hheld
    exact absurd ((document_eq_failure_iff.mpr h).symm.trans hdocument) (by simp)
  | notTable h hsection =>
    refine .inl ⟨?_, rfl⟩
    rintro ⟨_, ⟨held', _, hheld', hsection', _⟩, _⟩
    obtain rfl := h.unique hheld'
    exact absurd (hsection.symm.trans hsection') (by simp)
  | entries h hf =>
    rcases hf.sourcePath_cases with ⟨⟨e, he, hnot⟩, hpath⟩ | ⟨hfits, hpath⟩
    · refine .inl ⟨?_, hpath⟩
      rintro ⟨entries', h', hfits, _⟩
      obtain rfl := h.unique h'
      exact hnot (hfits e he)
    · exact .inr ⟨⟨_, h, hfits, hf.not_acceptable⟩, hpath⟩

theorem Misvalues.exists_refusal (h : Misvalues bytes) (p : Path) : ∃ f, FileRefusal p bytes f := by
  obtain ⟨entries, hgives, _, hnot⟩ := h
  rcases ofEntries_cases hgives.nodup (some p.toText) with ⟨haccept, _⟩ | ⟨f, hf, _⟩
  · exact absurd haccept hnot
  · exact ⟨f, .entries hgives hf⟩

/-- A settings file that exists fails to make settings exactly for what stands in it, and always
with a failure about the configuration. The diagnostic names the file, unless the entries all give
texts to settings and the text for the template or for the class prefix is refused. Then it names
no file at all. -/
theorem load_names_file_iff (hfile : d.isFile (asked.getD defaultFile) = .ok true) :
    ∃ bytes, d.read (asked.getD defaultFile) = .ok bytes ∧
      (∀ f, (load d asked).outcome = .error (.failure f) ↔
        FileRefusal (asked.getD defaultFile) bytes f) ∧
      (∀ f, (load d asked).outcome = .error (.failure f) → f.kind = .settings ∧
        (f.diagnostic.sourcePath = some (asked.getD defaultFile).toText ↔ ¬Misvalues bytes) ∧
        (f.diagnostic.sourcePath = none ↔ Misvalues bytes)) ∧
      (Misvalues bytes → ∃ f, (load d asked).outcome = .error (.failure f)) := by
  obtain ⟨bytes, hbytes⟩ := Disk.exists_read_of_isFile hfile
  have hload : load d asked = ofBytes (asked.getD defaultFile) bytes := by
    simp only [load, hfile, hbytes]
  rw [hload]
  refine ⟨bytes, hbytes, fun f => ⟨refusal_of_ofBytes, FileRefusal.outcome_eq⟩, ?_, ?_⟩
  · intro f hfails
    have hf := refusal_of_ofBytes hfails
    refine ⟨hf.kind_eq, ?_⟩
    rcases hf.sourcePath_cases with ⟨hnot, hpath⟩ | ⟨hmis, hpath⟩
    · simp [hpath, hnot]
    · simp [hpath, hmis]
  · intro hmis
    obtain ⟨f, hf⟩ := hmis.exists_refusal (asked.getD defaultFile)
    exact ⟨f, hf.outcome_eq⟩

/-- A settings file with a misspelled setting behind a class prefix that is refused, too. -/
def misspelled : List Char :=
  "[tool.typedloc]\nclass-prefix = \"my-prefix\"\ninput_dir = \"i18n\"\n".toList

theorem givesEntries_misspelled : GivesEntries (Utf8.encodeChars misspelled)
    [("class-prefix", .text "my-prefix"), ("input_dir", .text "i18n")] := by
  have hread : Toml.read (Toml.unifyNewlines [] misspelled) =
      .ok [("tool", .table [("typedloc", .table
        [("class-prefix", .text "my-prefix"), ("input_dir", .text "i18n")])])] := by
    cbv
  exact ⟨_, _, ⟨misspelled, rfl, hread⟩, rfl, rfl⟩

theorem load_names_file_iff_misspelled :
    (diskWith misspelled).isFile defaultFile = .ok true ∧
    ∃ f, (load (diskWith misspelled) none).outcome = .error (.failure f) ∧
      f.diagnostic.sourcePath = some defaultFile.toText := by
  have hfile : (diskWith misspelled).isFile ((none : Option Path).getD defaultFile) =
      .ok true := rfl
  obtain ⟨bytes, hbytes, hfails, hnames, _⟩ := load_names_file_iff hfile
  obtain rfl : Utf8.encodeChars misspelled = bytes := Except.ok.inj hbytes
  obtain ⟨f, hmisfit⟩ : ∃ f, Misfit (some defaultFile.toText)
      (Text.ofString "input_dir", .text "i18n") f := by
    refine ⟨_, .unknown fun n => ?_⟩
    cases n <;> decide
  have hfirst : IsFirst (fun e => ¬Fits e)
      [("class-prefix", .text "my-prefix"), ("input_dir", .text "i18n")]
      (Text.ofString "input_dir", .text "i18n") := by
    refine isFirst_cons.mpr (.inr ⟨not_not.mpr ⟨⟨.classPrefix, rfl⟩, _, rfl⟩, ?_⟩)
    exact isFirst_cons.mpr (.inl ⟨hmisfit.not_fits, rfl⟩)
  -- The class prefix stands first, but it is checked only where all entries fit.
  have hload := (hfails _).mpr (.entries givesEntries_misspelled (.entry hfirst hmisfit))
  refine ⟨hfile, _, hload, (hnames _ hload).2.1.mpr ?_⟩
  rintro ⟨entries, hgives, hall, _⟩
  obtain rfl := hgives.unique givesEntries_misspelled
  exact hmisfit.not_fits (hall _ hfirst.mem)

/-- A settings file whose class prefix is refused. -/
def hyphenated : List Char :=
  "[tool.typedloc]\nclass-prefix = \"my-prefix\"\n".toList

/-- What is said of a refused class prefix names no file. -/
theorem not_names_file_hyphenated :
    (diskWith hyphenated).isFile defaultFile = .ok true ∧
    ¬∀ f, (load (diskWith hyphenated) none).outcome = .error (.failure f) →
      f.diagnostic.sourcePath = some defaultFile.toText := by
  have hload : (load (diskWith hyphenated) none).outcome = .error (.failure (.invalidSettings
      "class-prefix must be an ASCII identifier, got 'my-prefix'" none)) := by
    decide +kernel
  exact ⟨rfl, fun hnames => nomatch hnames _ hload⟩

end Phrasebook.Settings
