import Mathlib
import Phrasebook.Generation
import Phrasebook.Proofs.Emitted.Bundles
import Phrasebook.Proofs.Generation.Stages
import Phrasebook.Proofs.Locale.Groups
import Phrasebook.Proofs.PhraseFile.Faults
import Phrasebook.Proofs.PhraseFile.Loading
import Phrasebook.Proofs.Phrases
import Phrasebook.Proofs.Schema

/-! What generation accepts. The requirements are put in terms of what stands in the input
directory, and a run decides them in order, except where the disk refuses to look at a path that is
too long. -/

namespace Phrasebook.Generator

/-! ### Requirements -/

section Requirements

variable (r : Reference) (files : List (Text × Bytes))

/-- One of the files stands for the locale. -/
def Has (l : Locale) : Prop :=
  ∃ e ∈ files, Locale.ofFileName r e.1 = .ok l

/-- One of the files stands for the locale and holds the phrases. -/
def Gives (l : Locale) (entries : Phrases) : Prop :=
  ∃ e ∈ files, Locale.ofFileName r e.1 = .ok l ∧
    Phrases.ofBytes Phrases.maxFileSize e.2 = .ok entries

/-- The names denote locales, and no two of them the same one. -/
def requiresNames : Requirement where
  holds := (∀ e ∈ files, ∃ l, Locale.ofFileName r e.1 = .ok l) ∧
    ∀ e ∈ files, ∀ e' ∈ files, ∀ l, Locale.ofFileName r e.1 = .ok l →
      Locale.ofFileName r e'.1 = .ok l → e.1 = e'.1
  kinds := [.invalidLanguage, .invalidRegion, .duplicateLocale]

/-- One of the files stands for the template's locale. -/
def requiresTemplate (template : Text) : Requirement where
  holds := ∃ l, Has r files l ∧ l.canonical = PhraseFile.wantedTemplate template
  kinds := [.missingTemplate]

/-- Every language with a file has one for its default. -/
def requiresFallback : Requirement where
  holds := ∀ l, Has r files l → Has r files (.default l.language)
  kinds := [.missingFallback]

/-- Every file holds texts by key and repeats no key. -/
def requiresPhrases : Requirement where
  holds := ∀ e ∈ files, ∃ entries, Phrases.ofBytes Phrases.maxFileSize e.2 = .ok entries ∧
    (entries.map (·.1)).Nodup
  kinds := [.invalidFile]

/-- Every key of the template can name an accessor. -/
def requiresAccessors (template : Text) : Requirement where
  holds := ∀ l entries, Gives r files l entries →
    l.canonical = PhraseFile.wantedTemplate template →
      ∀ key ∈ entries.map (·.1), Identifier.isAccessor key = true
  kinds := [.invalidKey]

/-- Every file keeps to the template's keys, and the default of a language has them all. -/
def requiresAgreement (template : Text) : Requirement where
  holds := ∀ l declared, Gives r files l declared →
    l.canonical = PhraseFile.wantedTemplate template →
      ∀ l' entries, Gives r files l' entries →
        (∀ key ∈ entries.map (·.1), key ∈ declared.map (·.1)) ∧
        (l'.region = none → ∀ key ∈ declared.map (·.1), key ∈ entries.map (·.1))
  kinds := [.unknownKey, .missingKey]

end Requirements

/-- The input directory is one. -/
def requiresDirectory (d : Disk) (dir : Path) : Requirement where
  holds := ∃ held, d.find dir = .ok (.directory held)
  kinds := [.missingInputDirectory]

/-- What generation asks of its input, in order. -/
def requirements (s : Settings) (r : Reference) (d : Disk) : List Requirement :=
  let files := d.phraseFiles s.inputDir
  [requiresDirectory d s.inputDir, requiresNames r files, requiresTemplate r files s.template,
    requiresFallback r files, requiresPhrases files, requiresAccessors r files s.template,
    requiresAgreement r files s.template]

/-! ### The phases -/

variable {d : Disk} {dir : Path} {r : Reference} {files : List PhraseFile} {template : Text}

/-- The files are those of the directory, as far as their names denote locales. -/
def Discovered (d : Disk) (dir : Path) (r : Reference) (files : List PhraseFile) : Prop :=
  ∀ f, f ∈ files ↔ ∃ e ∈ d.phraseFiles dir,
    Locale.ofFileName r e.1 = .ok f.locale ∧ f.path = dir.joinText e.1

theorem Discovered.has_iff (h : Discovered d dir r files) (l : Locale) :
    Has r (d.phraseFiles dir) l ↔ l ∈ files.map (·.locale) := by
  rw [List.mem_map]
  constructor
  · rintro ⟨e, he, hl⟩
    exact ⟨⟨l, dir.joinText e.1⟩, (h _).mpr ⟨e, he, hl, rfl⟩, rfl⟩
  · rintro ⟨f, hf, rfl⟩
    obtain ⟨e, he, hl, _⟩ := (h f).mp hf
    exact ⟨e, he, hl⟩

/-- Discovery decides whether there is a directory and whether its files can be taken. -/
theorem decides_inDirectory (wf : d.WellFormed) (hshort : ¬d.IsOverlong dir) :
    Requirement.Decides [requiresDirectory d dir, requiresNames r (d.phraseFiles dir)]
      (PhraseFile.inDirectory d dir r).outcome := by
  by_cases hdir : ∃ held, d.find dir = .ok (.directory held)
  · obtain ⟨held, hheld⟩ := hdir
    cases h : (PhraseFile.inDirectory d dir r).outcome with
    | ok files =>
      apply Requirement.decides_of_ok rfl
      rw [List.forall_mem_cons, List.forall_mem_singleton]
      exact ⟨⟨held, hheld⟩, PhraseFile.names_of_inDirectory wf h⟩
    | error t =>
      obtain ⟨name, f, hfirst, rfl⟩ := PhraseFile.exists_firstFault wf hheld hshort h
      refine Requirement.decides_of_failure rfl
        (.inr ⟨⟨held, hheld⟩, .inl ⟨?_, hfirst.fault.kind_mem⟩⟩)
      rintro ⟨hdenote, hdistinct⟩
      exact PhraseFile.not_fault_of_distinct hdenote hdistinct hfirst.mem hfirst.fault
  · apply Requirement.decides_of_failure
      (PhraseFile.inDirectory_of_missing (r := r) (by simpa using hdir) hshort)
    exact .inl ⟨hdir, by simp [Failure.kind, requiresDirectory]⟩

theorem decides_templateOf (h : Discovered d dir r files) :
    Requirement.Decides [requiresTemplate r (d.phraseFiles dir) template]
      (Trouble.ofFailure (PhraseFile.templateOf files dir template)) := by
  rcases PhraseFile.templateOf_cases files dir template with
    ⟨f, hf, hwanted, hok⟩ | ⟨hnone, p, herror⟩
  · apply Requirement.decides_of_ok (ofFailure_eq_ok.mpr hok)
    rw [List.forall_mem_singleton]
    exact ⟨f.locale, (h.has_iff _).mpr (List.mem_map_of_mem hf), hwanted⟩
  · refine Requirement.decides_of_failure (by rw [herror]; rfl)
      (.inl ⟨?_, by simp [Failure.kind, requiresTemplate]⟩)
    rintro ⟨l, hl, hwanted⟩
    obtain ⟨f, hf, rfl⟩ := List.mem_map.mp ((h.has_iff l).mp hl)
    exact hnone f hf hwanted

theorem decides_groups (h : Discovered d dir r files) (inputDir : Text) :
    Requirement.Decides [requiresFallback r (d.phraseFiles dir)]
      (Groups.build inputDir (files.map (·.locale))).outcome := by
  have hfallback : (requiresFallback r (d.phraseFiles dir)).holds ↔
      ∀ l ∈ files.map (·.locale), Locale.default l.language ∈ files.map (·.locale) := by
    simp only [requiresFallback, h.has_iff]
  apply Requirement.decides_singleton
  · intro gs hgs
    exact hfallback.mpr (Groups.build_ok_iff.mp hgs).2
  · intro t ht
    obtain ⟨f, rfl, hkind⟩ := Groups.build_error ht
    refine ⟨f, rfl, by simp [hkind, requiresFallback], ?_⟩
    intro hall
    have hok : (Groups.build inputDir (files.map (·.locale))).outcome = .ok _ :=
      Groups.build_ok_iff.mpr ⟨rfl, hfallback.mp hall⟩
    exact absurd (hok.symm.trans ht) (by simp)

variable {held : List (Text × DiskNode)} {sets : List PhraseSet}

/-- The loader of files. -/
abbrev fileLoader : Loader :=
  Phrases.fileLoader Phrases.maxFileSize

theorem decides_loadAll (wf : d.WellFormed) (hheld : d.find dir = .ok (.directory held))
    (hshort : ¬d.IsOverlong dir) (h : Discovered d dir r files)
    (hparse : ∀ e ∈ d.phraseFiles dir, ∃ l, Locale.ofFileName r e.1 = .ok l) :
    Requirement.Decides [requiresPhrases (d.phraseFiles dir)]
      (PhraseFile.loadAll d fileLoader files).outcome := by
  rcases PhraseFile.loadAll_cases d fileLoader files with
    ⟨sets, hsets, hok⟩ | ⟨f, hf, t, hload, herror⟩
  · apply Requirement.decides_of_ok hok
    rw [List.forall_mem_singleton]
    intro e he
    obtain ⟨l, hl⟩ := hparse e he
    obtain ⟨s, _, hs⟩ := exists_mem_right hsets ((h ⟨l, dir.joinText e.1⟩).mpr ⟨e, he, hl, rfl⟩)
    obtain ⟨hunbarred, hread⟩ := PhraseFile.read_entry wf hheld hshort he
    have hbytes := (Phrases.fileLoader_ok_iff hunbarred hread).mp hs.entries
    exact ⟨s.entries, hbytes, Phrases.nodup_keys_of_ofBytes hbytes⟩
  · obtain ⟨e, he, _, hpath⟩ := (h f).mp hf
    obtain ⟨hunbarred, hread⟩ := PhraseFile.read_entry wf hheld hshort he
    rw [hpath] at hload
    obtain ⟨failure, rfl, hkind⟩ := Phrases.fileLoader_error hunbarred hread hload
    refine Requirement.decides_of_failure herror
      (.inl ⟨?_, by simp [hkind, requiresPhrases]⟩)
    intro hall
    obtain ⟨entries, hentries, _⟩ := hall e he
    have hok := (Phrases.fileLoader_ok_iff hunbarred hread).mpr hentries
    exact absurd (hload.symm.trans hok) (by simp)

/-- The phrases that were loaded are those that the files hold. -/
theorem gives_iff (wf : d.WellFormed) (hheld : d.find dir = .ok (.directory held))
    (hshort : ¬d.IsOverlong dir) (h : Discovered d dir r files)
    (hloads : List.Forall₂ (PhraseFile.Loads d fileLoader) files sets) (l : Locale)
    (entries : Phrases) :
    Gives r (d.phraseFiles dir) l entries ↔ ∃ s ∈ sets, s.locale = l ∧ s.entries = entries := by
  constructor
  · rintro ⟨e, he, hl, hentries⟩
    obtain ⟨hunbarred, hread⟩ := PhraseFile.read_entry wf hheld hshort he
    obtain ⟨s, hs, hsf⟩ :=
      exists_mem_right hloads ((h ⟨l, dir.joinText e.1⟩).mpr ⟨e, he, hl, rfl⟩)
    have hbytes := (Phrases.fileLoader_ok_iff hunbarred hread).mp hsf.entries
    exact ⟨s, hs, hsf.locale, Except.ok.inj (hbytes.symm.trans hentries)⟩
  · rintro ⟨s, hs, rfl, rfl⟩
    obtain ⟨f, hf, hsf⟩ := exists_mem_left hloads hs
    obtain ⟨e, he, hl, hpath⟩ := (h f).mp hf
    obtain ⟨hunbarred, hread⟩ := PhraseFile.read_entry wf hheld hshort he
    exact ⟨e, he, hsf.locale ▸ hl,
      (Phrases.fileLoader_ok_iff hunbarred hread).mp (hpath ▸ hsf.entries)⟩

/-- Sets of phrases that stand for what the files of a directory give, with the template's set. -/
structure Loaded (r : Reference) (files : List (Text × Bytes)) (template : Text)
    (sets : List PhraseSet) (t : PhraseSet) : Prop where
  gives : ∀ l entries, Gives r files l entries ↔ ∃ s ∈ sets, s.locale = l ∧ s.entries = entries
  mem : t ∈ sets
  wanted : t.locale.canonical = PhraseFile.wantedTemplate template
  distinct : (sets.map (·.locale)).Nodup

/-- Only the template's set is one for the locale that the template setting asks for. -/
theorem Loaded.eq_of_wanted {files : List (Text × Bytes)} {t : PhraseSet}
    (h : Loaded r files template sets t) {s : PhraseSet} (hs : s ∈ sets)
    (hwanted : s.locale.canonical = PhraseFile.wantedTemplate template) : s = t := by
  have hlanguage {u : PhraseSet} (hu : u ∈ sets) : Locale.separator ∉ u.locale.language := by
    obtain ⟨e, _, hl, _⟩ := (h.gives u.locale u.entries).mpr ⟨u, hu, rfl, rfl⟩
    exact Locale.separator_notMem_language hl
  apply List.inj_on_of_nodup_map h.distinct hs h.mem
  exact Locale.canonical_inj (hlanguage hs) (hlanguage h.mem) (hwanted.trans h.wanted.symm)

/-- What is loaded from files agrees with what is loaded from more of them. -/
theorem Loaded.agree {files files' : List (Text × Bytes)} {sets sets' : List PhraseSet}
    {t t' : PhraseSet} {template template' : Text} (h : Loaded r files template sets t)
    (h' : Loaded r files' template' sets' t')
    (hgives : ∀ l entries, Gives r files l entries → Gives r files' l entries) :
    Bundle.Agree sets sets' := by
  intro u hu u' hu' hlocale
  have hmore := hgives _ _ ((h.gives _ _).mpr ⟨u, hu, rfl, rfl⟩)
  obtain ⟨v, hv, hvlocale, hentries⟩ := (h'.gives _ _).mp hmore
  rw [← hentries, List.inj_on_of_nodup_map h'.distinct hu' hv (hlocale.symm.trans hvlocale.symm)]

theorem decides_ofTemplate {files : List (Text × Bytes)} {t : PhraseSet}
    (h : Loaded r files template sets t) :
    Requirement.Decides [requiresAccessors r files template]
      (Trouble.ofFailure (Schema.ofTemplate t)) := by
  have hholds : (requiresAccessors r files template).holds ↔
      ∀ key ∈ t.keys, Identifier.isAccessor key = true := by
    constructor
    · intro hall
      exact hall t.locale t.entries ((h.gives _ _).mpr ⟨t, h.mem, rfl, rfl⟩) h.wanted
    · intro hall l entries hgives hwanted
      obtain ⟨s, hs, rfl, rfl⟩ := (h.gives l entries).mp hgives
      obtain rfl := h.eq_of_wanted hs hwanted
      exact hall
  rcases Schema.ofTemplate_cases t with ⟨hall, hok⟩ | ⟨key, hfirst, herror⟩
  · apply Requirement.decides_of_ok (ofFailure_eq_ok.mpr hok)
    rw [List.forall_mem_singleton]
    exact hholds.mpr hall
  · refine Requirement.decides_of_failure (by rw [herror]; rfl)
      (.inl ⟨?_, by simp [Failure.kind, requiresAccessors]⟩)
    exact fun hall => hfirst.holds (hholds.mp hall key hfirst.mem)

theorem decides_checkAll {files : List (Text × Bytes)} {t : PhraseSet} {schema : Schema}
    (h : Loaded r files template sets t) (hschema : schema.keys = t.entries.map (·.1)) :
    Requirement.Decides [requiresAgreement r files template] (schema.checkAll sets).outcome := by
  have hholds : (requiresAgreement r files template).holds ↔ ∀ s ∈ sets, schema.Accepts s := by
    constructor
    · intro hall s hs
      obtain ⟨hknown, hcomplete⟩ := hall t.locale t.entries
        ((h.gives _ _).mpr ⟨t, h.mem, rfl, rfl⟩) h.wanted s.locale s.entries
        ((h.gives _ _).mpr ⟨s, hs, rfl, rfl⟩)
      rw [← hschema] at hknown hcomplete
      exact ⟨hknown, fun hd => hcomplete (Option.isNone_iff_eq_none.mp hd)⟩
    · intro hall l declared hgives hwanted l' entries hgives'
      obtain ⟨u, hu, rfl, rfl⟩ := (h.gives l declared).mp hgives
      obtain rfl := h.eq_of_wanted hu hwanted
      obtain ⟨s, hs, rfl, rfl⟩ := (h.gives l' entries).mp hgives'
      have haccepts := hall s hs
      rw [← hschema]
      exact ⟨haccepts.known, fun hd => haccepts.complete (Option.isNone_iff_eq_none.mpr hd)⟩
  rcases Schema.checkAll_cases schema sets with ⟨hall, hok⟩ | ⟨s, f, hfirst, hfault, herror⟩
  · apply Requirement.decides_of_ok hok
    rw [List.forall_mem_singleton]
    exact hholds.mpr hall
  · refine Requirement.decides_of_failure herror (.inl ⟨?_, hfault.kind_mem⟩)
    exact fun hall => hfirst.holds (hholds.mp hall s hfirst.mem)

/-! ### The run -/

/-- Within the limits of the disk a run decides the requirements. -/
theorem decides_build_of_short {s : Settings} (wf : d.WellFormed)
    (hshort : ¬d.IsOverlong s.inputDir) :
    Requirement.Decides (requirements s r d)
      (build { settings := s, source := .given r } d).outcome := by
  rw [outcome_build]
  show Requirement.Decides ([_, _] ++ ([_] ++ ([_] ++ ([_] ++ ([_] ++ ([_] ++ []))))))
    ((PhraseFile.inDirectory d s.inputDir r).outcome >>= _)
  apply (decides_inDirectory wf hshort).bind
  intro files hfiles
  have hdir := (decides_inDirectory (r := r) wf hshort).returns_iff.mp ⟨files, hfiles⟩
  rw [List.forall_mem_cons, List.forall_mem_singleton] at hdir
  obtain ⟨⟨held, hheld⟩, hparse, _⟩ := hdir
  have hdiscovered := PhraseFile.mem_inDirectory wf hheld hshort hfiles
  apply (decides_templateOf hdiscovered).bind
  intro f hf
  obtain ⟨hmem, hwanted⟩ := PhraseFile.templateOf_ok (ofFailure_eq_ok.mp hf)
  apply (decides_groups hdiscovered s.inputDir.toText).bind
  intro groups hgroups
  obtain ⟨rfl, _⟩ := Groups.build_ok_iff.mp hgroups
  apply (decides_loadAll wf hheld hshort hdiscovered hparse).bind
  intro sets hsets
  have hloads := PhraseFile.loadAll_ok hsets
  have hlocales := PhraseFile.map_locale_of_loads hloads
  -- the template is among the files, so its phrases are among those that were loaded
  have hlocale : f.locale ∈ sets.map (·.locale) := by
    rw [hlocales]
    exact List.mem_map_of_mem hmem
  obtain ⟨t, ht, htlocale, hset⟩ := Bundle.exists_setOf hlocale
  rw [hset]
  have hloaded : Loaded r (d.phraseFiles s.inputDir) s.template sets t := {
    gives := gives_iff wf hheld hshort hdiscovered hloads
    mem := ht
    wanted := htlocale ▸ hwanted
    distinct := hlocales ▸ (PhraseFile.inDirectory_ok hfiles).1.distinct }
  apply (decides_ofTemplate hloaded).bind
  intro schema hschema
  obtain rfl := Schema.ofTemplate_ok (ofFailure_eq_ok.mp hschema)
  apply (decides_checkAll hloaded rfl).bind
  intro _ _
  obtain ⟨bundles, hbundles, _⟩ := Bundle.exists_ofGroups (p := s.classPrefix)
    (mem_locales_of_loads hloads)
  apply Requirement.decides_of_ok
  · rw [hbundles]
    rfl
  · simp

/-- A refusal of the disk ends the run. -/
theorem build_of_overlong {s : Settings} (wf : d.WellFormed) (hlong : d.IsOverlong s.inputDir) :
    ∃ e, e.cause = .nameTooLong ∧
      (build { settings := s, source := .given r } d).outcome = .error (.disk e) := by
  obtain ⟨e, hcause, he⟩ := PhraseFile.inDirectory_of_overlong (r := r) wf hlong
  refine ⟨e, hcause, ?_⟩
  rw [outcome_build]
  show (PhraseFile.inDirectory d s.inputDir r).outcome >>= _ = _
  rw [he]
  rfl

end Phrasebook.Generator
