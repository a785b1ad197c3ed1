import Mathlib
import Phrasebook.Proofs.Disk.Entries
import Phrasebook.Proofs.Locale.Spelling
import Phrasebook.Proofs.PhraseFile.Discovery
import Phrasebook.Proofs.PhraseFile.Loading

/-! Names of phrase files. Names that differ in nothing but the spelling of their codes are never
taken together, and a template is the file whose locale the template's name denotes. -/

namespace Phrasebook.PhraseFile

variable {d : Disk} {dir shown : Path} {r : Reference} {files : List PhraseFile} {template : Text}

/-! ### Names spelled alike -/

/-- Two files whose names differ in nothing but the spelling of their codes are not both taken. -/
theorem inDirectory_ne_ok_of_sameCode (wf : d.WellFormed) {e e' : Text × Bytes}
    (he : e ∈ d.phraseFiles dir) (he' : e' ∈ d.phraseFiles dir) (hne : e.1 ≠ e'.1)
    (hsame : Locale.SameCode (e.1.before '.') (e'.1.before '.')) (files : List PhraseFile) :
    (inDirectory d dir r).outcome ≠ .ok files := by
  intro h
  obtain ⟨hdenote, hdistinct⟩ := names_of_inDirectory wf h
  obtain ⟨l, hl⟩ := hdenote e he
  rcases Locale.parse_of_sameCode r hsame with ⟨l', ha, hb⟩ | ⟨f, _, ha, _⟩
  · exact hne (hdistinct e he e' he' l' ha hb)
  · exact absurd (hl.symm.trans ha) (by simp)

/-- Spelling makes no difference. Codes that differ in nothing else denote the same locale or are
refused for faults of the same kind, and no two files whose names so differ are both taken. -/
theorem spelling_indifferent (r : Reference) :
    (∀ a b, Locale.SameCode a b →
      (∃ l, Locale.parse r a = .ok l ∧ Locale.parse r b = .ok l) ∨
      ∃ f g, Locale.parse r a = .error f ∧ Locale.parse r b = .error g ∧ f.kind = g.kind ∧
        (f.kind = .invalidLanguage ∨ f.kind = .invalidRegion)) ∧
    ∀ (d : Disk) (dir : Path), d.WellFormed →
      ∀ e ∈ d.phraseFiles dir, ∀ e' ∈ d.phraseFiles dir, e.1 ≠ e'.1 →
        Locale.SameCode (e.1.before '.') (e'.1.before '.') →
          ∀ files, (inDirectory d dir r).outcome ≠ .ok files := by
  constructor
  · intro a b hsame
    rcases Locale.parse_of_sameCode r hsame with hok | ⟨f, g, ha, hb, hkind⟩
    · exact .inl hok
    · exact .inr ⟨f, g, ha, hb, hkind, Locale.parse_error_kind ha⟩
  · intro d dir wf e he e' he' hne hsame files
    exact inDirectory_ne_ok_of_sameCode wf he he' hne hsame files

/-- Two files for one locale, spelled alike. -/
def crowded : List (Text × DiskNode) :=
  [("AΣ-us.json", .file []), ("aΣ_US .json", .file [])]

def crowdedDisk : Disk where
  root := .directory crowded
  workingDirectory := []

theorem wellFormed_crowdedDisk : crowdedDisk.WellFormed := by
  apply DiskNode.proper_of_entries ⟨by decide, by decide⟩
  simp [crowded, DiskNode.proper_file]

theorem sameCode_crowded : Locale.SameCode "AΣ-us" "aΣ_US " := by
  refine ⟨"AΣ-us", "aΣ_US", ⟨[], [], ?_⟩, ⟨[], " ", ?_⟩, ?_⟩ <;> decide

def crowdedReference : Reference where
  languages := [("aς", "Alphabetic")]
  regions := [("US", "United States")]

theorem phraseFiles_crowdedDisk : crowdedDisk.phraseFiles ⟨.relative, []⟩ =
    [(("AΣ-us.json" : Text), []), (("aΣ_US .json" : Text), [])] := by
  decide

theorem spelling_indifferent_crowded :
    (∃ l, Locale.parse crowdedReference "AΣ-us" = .ok l ∧
      Locale.parse crowdedReference "aΣ_US " = .ok l) ∧
    ∀ files, (inDirectory crowdedDisk ⟨.relative, []⟩ crowdedReference).outcome ≠ .ok files := by
  obtain ⟨halike, hrefused⟩ := spelling_indifferent crowdedReference
  constructor
  · have hparse : Locale.parse crowdedReference "AΣ-us" = .ok ⟨"aς", some "US"⟩ := by rfl
    rcases halike _ _ sameCode_crowded with hok | ⟨f, _, herror, _⟩
    · exact hok
    · exact absurd (hparse.symm.trans herror) (by simp)
  · exact hrefused crowdedDisk ⟨.relative, []⟩ wellFormed_crowdedDisk ("AΣ-us.json", [])
      (by simp [phraseFiles_crowdedDisk]) ("aΣ_US .json", []) (by simp [phraseFiles_crowdedDisk])
      (by decide) sameCode_crowded

/-! ### The template -/

/-- What is appended to a template's name comes after its first dot. -/
theorem before_append_ending (name : Text) : (name ++ ending).before '.' = name.before '.' :=
  Text.before_append_cons '.' name "json"

theorem before_templateName (template : Text) :
    (templateName template).before '.' = template.before '.' := by
  unfold templateName
  split_ifs
  · rfl
  · exact before_append_ending template

/-- The name of a phrase file goes on with the ending. -/
theorem exists_short_of_nameSuffix {name : Text} (h : nameSuffix name = ending) :
    ∃ short, name = short ++ ending := by
  unfold nameSuffix at h
  dsimp only at h
  split_ifs at h
  · exact absurd h (by decide)
  · exact ⟨_, by rw [← h, List.take_append_drop]⟩

/-- Among taken files a template is the one whose locale its name denotes. -/
theorem templateOf_eq_ok_iff (h : Taken r files) {f : PhraseFile} (hf : f ∈ files) :
    templateOf files shown template = .ok f ↔
      Locale.parse r ((templateName template).before '.') = .ok f.locale := by
  have hdenoted := h.denoted f hf
  rw [Locale.parse_iff_normalize hdenoted]
  constructor
  · intro hok
    exact (templateOf_ok hok).2.symm
  · intro hwanted
    rcases templateOf_cases files shown template with ⟨g, hg, hcanonical, hok⟩ | ⟨hnone, _⟩
    · have hlocale : g.locale = f.locale :=
        Locale.canonical_inj (Locale.separator_notMem_language (h.denoted g hg))
          (Locale.separator_notMem_language hdenoted) (hcanonical.trans hwanted)
      rwa [List.inj_on_of_nodup_map h.distinct hg hf hlocale] at hok
    · exact absurd hwanted.symm (hnone f hf)

/-- It is missing where its name denotes the locale of none of them. -/
theorem templateOf_eq_missing_iff (h : Taken r files) :
    (∃ p, templateOf files shown template = .error (.missingTemplate p)) ↔
      ∀ f ∈ files, Locale.parse r ((templateName template).before '.') ≠ .ok f.locale := by
  constructor
  · rintro ⟨p, hmissing⟩ f hf hparse
    have hok : templateOf files shown template = .ok f := (templateOf_eq_ok_iff h hf).mpr hparse
    exact absurd (hmissing.symm.trans hok) (by simp)
  · intro hnone
    rcases templateOf_cases files shown template with ⟨f, hf, _, hok⟩ | ⟨_, hmissing⟩
    · exact absurd ((templateOf_eq_ok_iff h hf).mp hok) (hnone f hf)
    · exact hmissing

/-- A taken file is the template that goes by what its own name has before the first dot. -/
theorem templateOf_eq_self (h : Taken r files) {f : PhraseFile} (hf : f ∈ files)
    (hname : template.before '.' = f.path.name.before '.') :
    templateOf files shown template = .ok f := by
  rw [templateOf_eq_ok_iff h hf, before_templateName, hname]
  exact h.denoted f hf

/-- A template is chosen by locale, as a parser would choose it. It is the discovered file whose
locale the template's name denotes, and missing if no discovered file has that locale; so every
discovered file is chosen by its own name, with its ending or without. -/
theorem templateOf_by_locale (wf : d.WellFormed) (h : (inDirectory d dir r).outcome = .ok files)
    (shown : Path) :
    (∀ template, ∀ f ∈ files, templateOf files shown template = .ok f ↔
      Locale.parse r ((templateName template).before '.') = .ok f.locale) ∧
    (∀ template, (∃ p, templateOf files shown template = .error (.missingTemplate p)) ↔
      ∀ f ∈ files, Locale.parse r ((templateName template).before '.') ≠ .ok f.locale) ∧
    ∀ f ∈ files, templateOf files shown f.path.name = .ok f ∧
      ∃ short, f.path.name = short ++ ending ∧ templateOf files shown short = .ok f := by
  have htaken := (inDirectory_ok h).1
  refine ⟨fun _ _ hf => templateOf_eq_ok_iff htaken hf,
    fun _ => templateOf_eq_missing_iff htaken, ?_⟩
  intro f hf
  obtain ⟨hshort, held, hheld⟩ := standing_of_inDirectory wf h
  obtain ⟨e, he, _, hpath⟩ := (mem_inDirectory wf hheld hshort h f).mp hf
  have hsuffix : nameSuffix f.path.name = ending := by
    rw [hpath, name_entry wf hheld he]
    exact ((Disk.mem_phraseFiles hheld).mp he).2
  obtain ⟨short, hname⟩ := exists_short_of_nameSuffix hsuffix
  refine ⟨templateOf_eq_self htaken hf rfl, short, hname, templateOf_eq_self htaken hf ?_⟩
  rw [hname, before_append_ending]

/-- A disk with one file, for Canadian French. -/
def canadianDisk : Disk where
  root := .directory [("fr-CA.json", .file [])]
  workingDirectory := []

theorem wellFormed_canadianDisk : canadianDisk.WellFormed := by
  apply DiskNode.proper_of_entries ⟨by decide, by decide⟩
  simp [DiskNode.proper_file]

def canadianReference : Reference where
  languages := [("fr", "French")]
  regions := [("CA", "Canada"), ("FR", "France")]

def canadianFile : PhraseFile :=
  ⟨⟨"fr", some "CA"⟩, ⟨.relative, ["fr-CA.json"]⟩⟩

theorem inDirectory_canadianDisk :
    (inDirectory canadianDisk ⟨.relative, []⟩ canadianReference).outcome = .ok [canadianFile] := by
  have hfind : canadianDisk.find ⟨.relative, []⟩ =
      .ok (.directory [("fr-CA.json", .file [])]) := rfl
  have hshort : ¬canadianDisk.IsOverlong ⟨.relative, []⟩ :=
    Disk.not_isOverlong hfind (by decide)
  have honly : canadianDisk.phraseFiles ⟨.relative, []⟩ = [(("fr-CA.json" : Text), [])] := by
    decide
  have hlocale : Locale.ofFileName canadianReference "fr-CA.json" = .ok ⟨"fr", some "CA"⟩ := by rfl
  exact inDirectory_singleton wellFormed_canadianDisk hfind hshort honly hlocale

theorem templateOf_by_locale_canadian :
    templateOf [canadianFile] ⟨.relative, []⟩ " FR_ca.draft" = .ok canadianFile ∧
    (∃ p, templateOf [canadianFile] ⟨.relative, []⟩ "fr-FR" = .error (.missingTemplate p)) ∧
    templateOf [canadianFile] ⟨.relative, []⟩ "fr-CA.json" = .ok canadianFile := by
  obtain ⟨hchosen, hmissing, hself⟩ :=
    templateOf_by_locale wellFormed_canadianDisk inDirectory_canadianDisk ⟨.relative, []⟩
  have hmem : canadianFile ∈ [canadianFile] := List.mem_singleton_self _
  refine ⟨(hchosen _ canadianFile hmem).mpr (by rfl), (hmissing _).mpr ?_,
    (hself canadianFile hmem).1⟩
  rw [List.forall_mem_singleton]
  decide +kernel

end Phrasebook.PhraseFile
