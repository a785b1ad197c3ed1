import Mathlib
import Phrasebook.Proofs.Generation.Contents

/-! What generation does not depend on. Phrase files may be spelled in another way for the same
locales, be listed in another order and stand next to other things: from the same contents the same
package is made, or the same fault is found. -/

namespace Phrasebook

/-- A file with these bytes can be read by the path. -/
def Disk.Reads (d : Disk) (p : Path) (content : Bytes) : Prop :=
  hasBarred p = false ∧ d.read p = .ok content

namespace Generator

/-! ### Files in correspondence -/

/-- One of the files stands for the locale and holds the bytes. -/
def Holds (r : Reference) (files : List (Text × Bytes)) (l : Locale) (content : Bytes) : Prop :=
  ∃ e ∈ files, Locale.ofFileName r e.1 = .ok l ∧ e.2 = content

/-- The files are in correspondence, one to one: the names of two that correspond stand for the
same locale, and their bytes are the same. -/
def Respelled (r : Reference) (files files' : List (Text × Bytes)) : Prop :=
  ∃ order, order.Perm files' ∧ List.Forall₂ (fun e e' => e.2 = e'.2 ∧
    ∃ l, Locale.ofFileName r e.1 = .ok l ∧ Locale.ofFileName r e'.1 = .ok l) files order

theorem Respelled.holds_iff {r : Reference} {files files' : List (Text × Bytes)}
    (h : Respelled r files files') (l : Locale) (content : Bytes) :
    Holds r files' l content ↔ Holds r files l content := by
  obtain ⟨order, hperm, hpairs⟩ := h
  constructor
  · rintro ⟨e', he', hl, rfl⟩
    obtain ⟨e, he, hcontent, l', hl', hsame⟩ := exists_mem_left hpairs (hperm.mem_iff.mpr he')
    obtain rfl := Except.ok.inj (hsame.symm.trans hl)
    exact ⟨e, he, hl', hcontent⟩
  · rintro ⟨e, he, hl, rfl⟩
    obtain ⟨e', he', hcontent, l', hl', hsame⟩ := exists_mem_right hpairs he
    obtain rfl := Except.ok.inj (hl'.symm.trans hl)
    exact ⟨e', hperm.mem_iff.mp he', hsame, hcontent.symm⟩

section Discovered

variable {d : Disk} {dir : Path} {r : Reference} {files : List PhraseFile} (wf : d.WellFormed)
  (h : (PhraseFile.inDirectory d dir r).outcome = .ok files)
include wf h

theorem exists_file_of_holds {l : Locale} {content : Bytes}
    (hl : Holds r (d.phraseFiles dir) l content) :
    ∃ f ∈ files, f.locale = l ∧ d.Reads f.path content := by
  obtain ⟨hshort, held, hheld⟩ := PhraseFile.standing_of_inDirectory wf h
  obtain ⟨e, he, hlocale, rfl⟩ := hl
  have hmem := (PhraseFile.mem_inDirectory wf hheld hshort h ⟨l, dir.joinText e.1⟩).mpr
    ⟨e, he, hlocale, rfl⟩
  exact ⟨_, hmem, rfl, PhraseFile.read_entry wf hheld hshort he⟩

theorem holds_of_mem {f : PhraseFile} (hf : f ∈ files) :
    ∃ content, Holds r (d.phraseFiles dir) f.locale content ∧ d.Reads f.path content := by
  obtain ⟨hshort, held, hheld⟩ := PhraseFile.standing_of_inDirectory wf h
  obtain ⟨e, he, hlocale, hpath⟩ := (PhraseFile.mem_inDirectory wf hheld hshort h f).mp hf
  exact ⟨e.2, ⟨e, he, hlocale, rfl⟩, hpath ▸ PhraseFile.read_entry wf hheld hshort he⟩

theorem mem_map_locale_iff (l : Locale) :
    l ∈ files.map (·.locale) ↔ ∃ content, Holds r (d.phraseFiles dir) l content := by
  rw [List.mem_map]
  constructor
  · rintro ⟨f, hf, rfl⟩
    obtain ⟨content, hholds, _⟩ := holds_of_mem wf h hf
    exact ⟨content, hholds⟩
  · rintro ⟨content, hholds⟩
    obtain ⟨f, hf, hlocale, _⟩ := exists_file_of_holds wf h hholds
    exact ⟨f, hf, hlocale⟩

end Discovered

/-- Files of two directories that stand for one locale and hold the same bytes. -/
structure Counterpart (d d' : Disk) (files files' : List PhraseFile) (f f' : PhraseFile) :
    Prop where
  mem : f ∈ files
  mem' : f' ∈ files'
  locale : f'.locale = f.locale
  content : ∃ content, d.Reads f.path content ∧ d'.Reads f'.path content

/-- From files in correspondence discovery finds counterparts, in the same order. -/
theorem forall₂_counterpart {d d' : Disk} {dir dir' : Path} {r : Reference}
    {files files' : List PhraseFile} (wf : d.WellFormed) (wf' : d'.WellFormed)
    (hregion : r.hasRegion [] = false)
    (hrespelled : Respelled r (d.phraseFiles dir) (d'.phraseFiles dir'))
    (h : (PhraseFile.inDirectory d dir r).outcome = .ok files)
    (h' : (PhraseFile.inDirectory d' dir' r).outcome = .ok files') :
    List.Forall₂ (Counterpart d d' files files') files files' := by
  obtain ⟨htaken, hsorted⟩ := PhraseFile.inDirectory_ok h
  obtain ⟨htaken', hsorted'⟩ := PhraseFile.inDirectory_ok h'
  have proper : ∀ l ∈ files.map (·.locale), l.region ≠ some [] := by
    intro l hl hempty
    obtain ⟨f, hf, rfl⟩ := List.mem_map.mp hl
    have hknown := Locale.hasRegion_of_parse (htaken.denoted f hf) hempty
    exact absurd hknown (by simp [hregion])
  have hlocales : files.map (·.locale) = files'.map (·.locale) := by
    apply Locale.eq_of_sorted hsorted hsorted' htaken.distinct htaken'.distinct proper
    intro l
    simp only [mem_map_locale_iff wf h, mem_map_locale_iff wf' h', hrespelled.holds_iff]
  refine (forall₂_of_map_eq hlocales).imp ?_
  rintro f f' ⟨hf, hf', hlocale⟩
  obtain ⟨content, hholds, hreads⟩ := holds_of_mem wf h hf
  obtain ⟨g, hg, hglocale, hgreads⟩ :=
    exists_file_of_holds wf' h' ((hrespelled.holds_iff _ _).mpr hholds)
  -- no two files of a directory stand for one locale, so this is the file in question
  obtain rfl : g = f' := List.inj_on_of_nodup_map htaken'.distinct hg hf' (hglocale.trans hlocale)
  exact ⟨hf, hf', hlocale.symm, content, hreads, hgreads⟩

/-! ### The same fault -/

/-- The paths of two files that stand for one locale. -/
def SamePlace (files files' : List PhraseFile) (path path' : Text) : Prop :=
  ∃ f ∈ files, ∃ f' ∈ files', f'.locale = f.locale ∧ path = f.path.toText ∧ path' = f'.path.toText

/-- The same fault of two input directories. Each failure names its own directory or file; what is
said about it is the same. -/
inductive SameFault (dir dir' : Path) (template : Text) (files files' : List PhraseFile) :
    Failure → Failure → Prop
  | template : SameFault dir dir' template files files'
      (.missingTemplate (dir.joinText (PhraseFile.templateName template)).toText)
      (.missingTemplate (dir'.joinText (PhraseFile.templateName template)).toText)
  | fallback (language : Text) (regions : List Text) : SameFault dir dir' template files files'
      (.missingFallback language regions dir.toText)
      (.missingFallback language regions dir'.toText)
  | invalidFile {path path' : Text} (reason : Text) (h : SamePlace files files' path path') :
      SameFault dir dir' template files files' (.invalidFile path reason)
        (.invalidFile path' reason)
  | invalidKey {path path' : Text} (key : Text) (h : SamePlace files files' path path') :
      SameFault dir dir' template files files' (.invalidKey key path) (.invalidKey key path')
  | unknownKey {path path' : Text} (key : Text) (h : SamePlace files files' path path') :
      SameFault dir dir' template files files' (.unknownKey key path) (.unknownKey key path')
  | missingKey {path path' : Text} (key : Text) (h : SamePlace files files' path path') :
      SameFault dir dir' template files files' (.missingKey key path) (.missingKey key path')

section Stages

variable {d d' : Disk} {dir dir' : Path} {template : Text} {files files' : List PhraseFile}

/-- The diagnostics have the same code, locale and key. -/
theorem SameFault.diagnostic {f f' : Failure}
    (h : SameFault dir dir' template files files' f f') :
    f'.diagnostic.code = f.diagnostic.code ∧ f'.diagnostic.localeCode = f.diagnostic.localeCode ∧
      f'.diagnostic.key = f.diagnostic.key := by
  cases h <;> exact ⟨rfl, rfl, rfl⟩

/-- What was loaded from files that stand for one locale. -/
structure SameSet (files files' : List PhraseFile) (u u' : PhraseSet) : Prop where
  locale : u'.locale = u.locale
  entries : u'.entries = u.entries
  place : SamePlace files files' u.path.toText u'.path.toText

theorem SameSet.keys {u u' : PhraseSet} (h : SameSet files files' u u') : u'.keys = u.keys := by
  rw [PhraseSet.keys, PhraseSet.keys, h.entries]

theorem alike_templateOf (h : List.Forall₂ (Counterpart d d' files files') files files') :
    Alike (SameFault dir dir' template files files') (Counterpart d d' files files')
      (Trouble.ofFailure (PhraseFile.templateOf files dir template))
      (Trouble.ofFailure (PhraseFile.templateOf files' dir' template)) := by
  have hwanted (f f' : PhraseFile) (hf : Counterpart d d' files files' f f') :
      (f.locale.canonical == PhraseFile.wantedTemplate template) =
        (f'.locale.canonical == PhraseFile.wantedTemplate template) := by
    rw [hf.locale]
  have hfind := find?_of_forall₂ h hwanted
  simp only [PhraseFile.templateOf, PhraseFile.wantedTemplate] at hfind ⊢
  generalize files.find? _ = first at hfind ⊢
  generalize files'.find? _ = first' at hfind ⊢
  cases hfind with
  | none => exact .failure .template
  | some hf => exact .ok hf

theorem alike_groups (ls : List Locale) : Alike (SameFault dir dir' template files files') Eq
    (Groups.build dir.toText ls).outcome (Groups.build dir'.toText ls).outcome := by
  simp only [Groups.build, Traced.outcome_bind, Groups.outcome_report, Groups.requireDefaults]
  cases (Groups.ofLocales ls).find? fun g => !g.hasDefault with
  | none => exact .ok rfl
  | some g => exact .failure (.fallback g.language g.variants)

theorem alike_load {f f' : PhraseFile} {maxSize : Int} (h : Counterpart d d' files files' f f') :
    Alike (SameFault dir dir' template files files') (SameSet files files')
      (PhraseFile.load d (Phrases.fileLoader maxSize) f).outcome
      (PhraseFile.load d' (Phrases.fileLoader maxSize) f').outcome := by
  have hplace : SamePlace files files' f.path.toText f'.path.toText :=
    ⟨f, h.mem, f', h.mem', h.locale, rfl, rfl⟩
  obtain ⟨content, ⟨hunbarred, hread⟩, hunbarred', hread'⟩ := h.content
  cases hcontent : Phrases.ofBytes maxSize content with
  | ok entries =>
    rw [PhraseFile.load_ok ((Phrases.fileLoader_ok_iff hunbarred hread).mpr hcontent),
      PhraseFile.load_ok ((Phrases.fileLoader_ok_iff hunbarred' hread').mpr hcontent)]
    exact .ok ⟨h.locale, rfl, hplace⟩
  | error reason =>
    rw [PhraseFile.load_error (Phrases.fileLoader_refuses hunbarred hread hcontent),
      PhraseFile.load_error (Phrases.fileLoader_refuses hunbarred' hread' hcontent)]
    exact .failure (.invalidFile reason hplace)

theorem alike_loadAll {fs fs' : List PhraseFile} {maxSize : Int}
    (h : List.Forall₂ (Counterpart d d' files files') fs fs') :
    Alike (SameFault dir dir' template files files') (List.Forall₂ (SameSet files files'))
      (PhraseFile.loadAll d (Phrases.fileLoader maxSize) fs).outcome
      (PhraseFile.loadAll d' (Phrases.fileLoader maxSize) fs').outcome := by
  induction h with
  | nil => exact .ok .nil
  | cons hf _ ih =>
    simp only [PhraseFile.loadAll, Traced.outcome_bind, Traced.outcome_pure]
    apply (alike_load hf).bind
    intro u u' _ _ hu
    apply ih.bind
    intro us us' _ _ hus
    exact .ok (.cons hu hus)

theorem alike_ofTemplate {t t' : PhraseSet} (h : SameSet files files' t t') :
    Alike (SameFault dir dir' template files files') (fun σ σ' => σ'.keys = σ.keys)
      (Trouble.ofFailure (Schema.ofTemplate t)) (Trouble.ofFailure (Schema.ofTemplate t')) := by
  simp only [Schema.ofTemplate, h.keys]
  cases t.keys.find? fun key => !Identifier.isAccessor key with
  | none => exact .ok rfl
  | some key => exact .failure (.invalidKey key h.place)

section Checks

variable {σ σ' : Schema} (hkeys : σ'.keys = σ.keys)
include hkeys

theorem alike_checkKnown {u u' : PhraseSet} (h : SameSet files files' u u') :
    Alike (SameFault dir dir' template files files') Eq (Trouble.ofFailure (σ.checkKnown u))
      (Trouble.ofFailure (σ'.checkKnown u')) := by
  simp only [Schema.checkKnown, h.keys, hkeys]
  cases u.keys.find? fun key => !σ.keys.contains key with
  | none => exact .ok rfl
  | some key => exact .failure (.unknownKey key h.place)

theorem alike_checkComplete {u u' : PhraseSet} (h : SameSet files files' u u') :
    Alike (SameFault dir dir' template files files') Eq (Trouble.ofFailure (σ.checkComplete u))
      (Trouble.ofFailure (σ'.checkComplete u')) := by
  simp only [Schema.checkComplete, h.keys, hkeys]
  cases σ.keys.find? fun key => !u.keys.contains key with
  | none => exact .ok rfl
  | some key => exact .failure (.missingKey key h.place)

theorem alike_check {u u' : PhraseSet} (h : SameSet files files' u u') :
    Alike (SameFault dir dir' template files files') Eq (Trouble.ofFailure (σ.check u))
      (Trouble.ofFailure (σ'.check u')) := by
  simp only [Schema.check, ofFailure_bind, h.locale]
  apply (alike_checkKnown hkeys h).bind
  intro _ _ _ _ _
  split_ifs
  · exact alike_checkComplete hkeys h
  · exact .ok rfl

theorem alike_checkAll {us us' : List PhraseSet}
    (h : List.Forall₂ (SameSet files files') us us') :
    Alike (SameFault dir dir' template files files') Eq (σ.checkAll us).outcome
      (σ'.checkAll us').outcome := by
  induction h with
  | nil => exact .ok rfl
  | cons hu _ ih =>
    rw [Schema.outcome_checkAll_cons, Schema.outcome_checkAll_cons]
    apply (alike_check hkeys hu).bind
    intro _ _ _ _ _
    exact ih

end Checks

section Sets

variable {sets sets' : List PhraseSet} (h : List.Forall₂ (SameSet files files') sets sets')
include h

theorem alike_setOf {l : Locale} (hl : l ∈ sets.map (·.locale)) :
    Alike (SameFault dir dir' template files files') (SameSet files files')
      (Bundle.setOf sets l) (Bundle.setOf sets' l) := by
  have hlocale (u u' : PhraseSet) (hu : SameSet files files' u u') :
      (u.locale == l) = (u'.locale == l) := by
    rw [hu.locale]
  have hfind := find?_of_forall₂ h hlocale
  obtain ⟨_, _, _, hok⟩ := Bundle.exists_setOf hl
  simp only [Bundle.setOf] at hok ⊢
  generalize sets.find? _ = first at hfind hok ⊢
  generalize sets'.find? _ = first' at hfind ⊢
  cases hfind with
  | none => exact absurd hok (by simp)
  | some hu => exact .ok hu

theorem map_locale_sets : sets'.map (·.locale) = sets.map (·.locale) :=
  (map_eq_map_of_forall₂ h fun _ _ hu => hu.locale.symm).symm

theorem agree_sets (hnodup : (sets'.map (·.locale)).Nodup) : Bundle.Agree sets sets' := by
  intro u hu u' hu' hlocale
  obtain ⟨v, hv, hsame⟩ := exists_mem_right h hu
  obtain rfl : v = u' :=
    List.inj_on_of_nodup_map hnodup hv hu' (hsame.locale.trans hlocale)
  exact hsame.entries.symm

theorem exists_bundles {p : ClassPrefix} {groups : List LanguageGroup}
    (hlocales : ∀ l ∈ Groups.locales groups, l ∈ sets.map (·.locale))
    (hnodup : (sets'.map (·.locale)).Nodup) :
    ∃ bundles, (Bundle.ofGroups p sets groups).outcome = .ok bundles ∧
      (Bundle.ofGroups p sets' groups).outcome = .ok bundles := by
  have hlocales' : ∀ l ∈ Groups.locales groups, l ∈ sets'.map (·.locale) := by
    rwa [map_locale_sets h]
  obtain ⟨bundles, hok, hall⟩ := Bundle.exists_ofGroups (p := p) hlocales
  obtain ⟨bundles', hok', hall'⟩ := Bundle.exists_ofGroups (p := p) hlocales'
  obtain rfl := Bundle.eq_of_ofGroups (agree_sets h hnodup) hall hall'
  exact ⟨bundles, hok, hok'⟩

end Sets

end Stages

/-! ### The same package -/

variable {s s' : Settings} {r : Reference} {d d' : Disk} {files files' : List PhraseFile}

theorem alike_build (hclassPrefix : s'.classPrefix = s.classPrefix)
    (htemplate : s'.template = s.template)
    (hfiles : (PhraseFile.inDirectory d s.inputDir r).outcome = .ok files)
    (hfiles' : (PhraseFile.inDirectory d' s'.inputDir r).outcome = .ok files')
    (h : List.Forall₂ (Counterpart d d' files files') files files') :
    Alike (SameFault s.inputDir s'.inputDir s.template files files') Eq
      ((reading s r).build d).outcome ((reading s' r).build d').outcome := by
  have hlocales : files'.map (·.locale) = files.map (·.locale) :=
    (map_eq_map_of_forall₂ h fun _ _ hf => hf.locale.symm).symm
  rw [outcome_build, outcome_build]
  show Alike _ _ ((PhraseFile.inDirectory d s.inputDir r).outcome >>= _)
    ((PhraseFile.inDirectory d' s'.inputDir r).outcome >>= _)
  rw [hfiles, hfiles']
  show Alike _ _ (Trouble.ofFailure (PhraseFile.templateOf files s.inputDir s.template) >>= _)
    (Trouble.ofFailure (PhraseFile.templateOf files' s'.inputDir s'.template) >>= _)
  rw [htemplate]
  apply (alike_templateOf h).bind
  intro f f' hf _ hcounterpart
  rw [hlocales]
  apply (alike_groups (files.map (·.locale))).bind
  rintro groups _ hgroups _ rfl
  obtain ⟨rfl, _⟩ := Groups.build_ok_iff.mp hgroups
  apply (alike_loadAll h).bind
  intro sets sets' hsets hsets' hsame
  have hloads := PhraseFile.loadAll_ok hsets
  have hnodup : (sets'.map (·.locale)).Nodup := by
    rw [PhraseFile.map_locale_of_loads (PhraseFile.loadAll_ok hsets')]
    exact (PhraseFile.inDirectory_ok hfiles').1.distinct
  have hlocale : f.locale ∈ sets.map (·.locale) := by
    rw [PhraseFile.map_locale_of_loads hloads]
    exact List.mem_map_of_mem hcounterpart.mem
  rw [hcounterpart.locale]
  apply (alike_setOf hsame hlocale).bind
  intro t t' _ _ ht
  apply (alike_ofTemplate ht).bind
  intro σ σ' _ _ hkeys
  apply (alike_checkAll hkeys hsame).bind
  intro _ _ _ _ _
  obtain ⟨bundles, hbundles, hbundles'⟩ := exists_bundles (p := s.classPrefix) hsame
    (mem_locales_of_loads hloads) hnodup
  show Alike _ _ ((Bundle.ofGroups s.classPrefix sets _).outcome >>= _)
    ((Bundle.ofGroups s'.classPrefix sets' _).outcome >>= _)
  rw [hclassPrefix, hbundles, hbundles']
  have hreading : (reading s' r).settings.classPrefix = (reading s r).settings.classPrefix :=
    hclassPrefix
  exact .ok (by simp only [outputs, hreading, hkeys])

/-- Two input directories with the same contents for the same locales: the same package is made from
both, or the same fault is found in both. -/
theorem build_of_respelled (wf : d.WellFormed) (wf' : d'.WellFormed)
    (hclassPrefix : s'.classPrefix = s.classPrefix) (htemplate : s'.template = s.template)
    (hregion : r.hasRegion [] = false)
    (hrespelled : Respelled r (d.phraseFiles s.inputDir) (d'.phraseFiles s'.inputDir))
    (hfiles : (PhraseFile.inDirectory d s.inputDir r).outcome = .ok files)
    (hfiles' : (PhraseFile.inDirectory d' s'.inputDir r).outcome = .ok files') :
    (∃ made, ((reading s r).build d).outcome = .ok made ∧
      ((reading s' r).build d').outcome = .ok made) ∨
    ∃ f f', ((reading s r).build d).outcome = .error (.failure f) ∧
      ((reading s' r).build d').outcome = .error (.failure f') ∧
      SameFault s.inputDir s'.inputDir s.template files files' f f' := by
  have halike := alike_build hclassPrefix htemplate hfiles hfiles'
    (forall₂_counterpart wf wf' hregion hrespelled hfiles hfiles')
  generalize ((reading s r).build d).outcome = o at halike ⊢
  generalize ((reading s' r).build d').outcome = o' at halike ⊢
  cases halike with
  | ok heq =>
    obtain rfl := heq
    exact .inl ⟨_, rfl, rfl⟩
  | failure hfault => exact .inr ⟨_, _, rfl, rfl, hfault⟩

/-- The two files under other names, among things that are no phrase files. -/
def respelled : List (Text × DiskNode) :=
  [("FR.draft.json", .file french), ("notes.txt", .file []), ("old.json", .directory []),
    ("En.json", .file english)]

theorem proper_respelled : DiskNode.Proper (.directory respelled) := by
  apply DiskNode.proper_of_entries ⟨by decide, by decide⟩
  simp [respelled, DiskNode.proper_file, DiskNode.proper_nil]

theorem phraseFiles_respelled : (packed respelled).phraseFiles greetingDir =
    [(("FR.draft.json" : Text), french), (("En.json" : Text), english)] := by
  simp only [Disk.phraseFiles, find_packed]
  decide

theorem hasContents_respelled :
    HasContents bilingualReference ((packed respelled).phraseFiles greetingDir)
      [(⟨"fr", none⟩, frenchEntries), (⟨"en", none⟩, englishEntries)] := by
  rw [phraseFiles_respelled]
  exact .cons ⟨by decide, ofBytes_french⟩ (.cons ⟨by decide, ofBytes_english⟩ .nil)

theorem respelled_bilingual :
    Respelled bilingualReference ((packed bilingual).phraseFiles greetingDir)
      ((packed respelled).phraseFiles greetingDir) := by
  rw [phraseFiles_bilingual, phraseFiles_respelled]
  refine ⟨_, List.Perm.swap _ _ _, .cons ?_ (.cons ?_ .nil)⟩
  · exact ⟨rfl, ⟨"en", none⟩, by decide, by decide⟩
  · exact ⟨rfl, ⟨"fr", none⟩, by decide, by decide⟩

/-- The same package is made from both. -/
theorem build_of_respelled_bilingual :
    (packed bilingual).WellFormed ∧ (packed respelled).WellFormed ∧
    bilingualReference.hasRegion [] = false ∧
    Respelled bilingualReference ((packed bilingual).phraseFiles greetingDir)
      ((packed respelled).phraseFiles greetingDir) ∧
    (∃ files, (PhraseFile.inDirectory (packed bilingual) greetingDir bilingualReference).outcome =
      .ok files) ∧
    (∃ files, (PhraseFile.inDirectory (packed respelled) greetingDir bilingualReference).outcome =
      .ok files) ∧
    ∃ made,
      ((reading (settingsFor greetingDir "en") bilingualReference).build
        (packed bilingual)).outcome = .ok made ∧
      ((reading (settingsFor greetingDir "en") bilingualReference).build
        (packed respelled)).outcome = .ok made := by
  have wf := wellFormed_packed proper_bilingual
  have wf' := wellFormed_packed proper_respelled
  have hregion : bilingualReference.hasRegion [] = false := by decide
  obtain ⟨files, hfiles⟩ := hasContents_bilingual.exists_files wf (find_packed bilingual)
    short_bilingual (by decide)
  obtain ⟨files', hfiles'⟩ := hasContents_respelled.exists_files wf' (find_packed respelled)
    (by decide) (by decide)
  refine ⟨wf, wf', hregion, respelled_bilingual, ⟨files, hfiles⟩, ⟨files', hfiles'⟩, ?_⟩
  obtain ⟨made, hmade⟩ := exists_build_bilingual (.inl rfl)
  rcases build_of_respelled (s := settingsFor greetingDir "en") wf wf' rfl rfl hregion
    respelled_bilingual hfiles hfiles' with hsame | ⟨f, _, hfailed, _⟩
  · exact hsame
  · exact absurd (hmade.symm.trans hfailed) (by simp)

end Generator

end Phrasebook
