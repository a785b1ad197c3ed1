import Mathlib
import Phrasebook.Generation
import Phrasebook.Proofs.ClassNames
import Phrasebook.Proofs.Emitted.Bundles
import Phrasebook.Proofs.Locale.Groups
import Phrasebook.Proofs.PhraseFile.Discovery
import Phrasebook.Proofs.PhraseFile.Loading
import Phrasebook.Proofs.Schema

/-! The stages of a successful run. Discovery, grouping and loading agree on the locales, so what
the later stages look up is always there. -/

namespace Phrasebook.Generator

variable {g : Generator} {d : Disk} {made : Generated}

/-- What a run that makes `made` finds and makes on the way. -/
structure Stages (g : Generator) (d : Disk) (made : Generated) where
  reference : Reference
  files : List PhraseFile
  template : PhraseFile
  sets : List PhraseSet
  templateSet : PhraseSet
  reference_eq : g.reference = .ok reference
  files_eq : (PhraseFile.inDirectory d g.settings.inputDir reference).outcome = .ok files
  template_eq :
    PhraseFile.templateOf files g.settings.inputDir g.settings.template = .ok template
  groups_eq : made.groups = Groups.ofLocales (files.map (·.locale))
  fallback : ∀ l ∈ files.map (·.locale), Locale.default l.language ∈ files.map (·.locale)
  loads : List.Forall₂ (PhraseFile.Loads d g.loader) files sets
  templateSet_mem : templateSet ∈ sets
  templateSet_locale : templateSet.locale = template.locale
  accessors : ∀ key ∈ templateSet.keys, Identifier.isAccessor key = true
  accepts : ∀ s ∈ sets,
    Schema.Accepts ⟨templateSet.locale, templateSet.path, templateSet.keys⟩ s
  bundles : List.Forall₂ (Bundle.OfGroup g.settings.classPrefix sets) made.groups made.bundles
  table_eq : made.table = LookupTable.ofGroups g.settings.classPrefix made.groups
  outputs_eq : made.outputs = g.outputs reference made.bundles made.table templateSet.keys

theorem outcome_build : (g.build d).outcome =
    (do
      let s := g.settings
      let r ← Trouble.ofFailure g.reference
      let files ← (PhraseFile.inDirectory d s.inputDir r).outcome
      let template ← Trouble.ofFailure (PhraseFile.templateOf files s.inputDir s.template)
      let groups ← (Groups.build s.inputDir.toText (files.map (·.locale))).outcome
      let sets ← (PhraseFile.loadAll d g.loader files).outcome
      let templateSet ← Bundle.setOf sets template.locale
      let schema ← Trouble.ofFailure (Schema.ofTemplate templateSet)
      (schema.checkAll sets).outcome
      let bundles ← (Bundle.ofGroups s.classPrefix sets groups).outcome
      let table := LookupTable.ofGroups s.classPrefix groups
      return { groups, bundles, table, outputs := g.outputs r bundles table schema.keys }) := by
  simp only [build, Traced.outcome_bind, Traced.outcome_ofExcept, Traced.outcome_pure]
  rfl

/-- The locales of the groups are those of the files. -/
theorem mem_locales_of_loads {loader : Loader} {files : List PhraseFile} {sets : List PhraseSet}
    (h : List.Forall₂ (PhraseFile.Loads d loader) files sets) :
    ∀ l ∈ Groups.locales (Groups.ofLocales (files.map (·.locale))), l ∈ sets.map (·.locale) := by
  intro l hl
  rw [PhraseFile.map_locale_of_loads h]
  exact Groups.mem_locales_ofLocales.mp hl

/-- Every result is made in stages. -/
theorem stages_of_build (h : (g.build d).outcome = .ok made) : Nonempty (Stages g d made) := by
  rw [outcome_build, bind_eq_ok] at h
  obtain ⟨r, hr, h⟩ := h
  rw [bind_eq_ok] at h
  obtain ⟨files, hfiles, h⟩ := h
  rw [bind_eq_ok] at h
  obtain ⟨template, htemplate, h⟩ := h
  rw [bind_eq_ok] at h
  obtain ⟨groups, hgroups, h⟩ := h
  rw [bind_eq_ok] at h
  obtain ⟨sets, hsets, h⟩ := h
  rw [bind_eq_ok] at h
  obtain ⟨templateSet, hset, h⟩ := h
  rw [bind_eq_ok] at h
  obtain ⟨schema, hschema, h⟩ := h
  rw [bind_eq_ok] at h
  obtain ⟨_, hchecked, h⟩ := h
  rw [bind_eq_ok] at h
  obtain ⟨bundles, hbundles, h⟩ := h
  obtain rfl := Except.ok.inj h
  rw [ofFailure_eq_ok] at hr htemplate hschema
  obtain ⟨rfl, hfallback⟩ := Groups.build_ok_iff.mp hgroups
  have haccessors := Schema.isAccessor_of_ofTemplate hschema
  obtain rfl := Schema.ofTemplate_ok hschema
  have hloads := PhraseFile.loadAll_ok hsets
  have hlocale : template.locale ∈ sets.map (·.locale) := by
    rw [PhraseFile.map_locale_of_loads hloads]
    exact List.mem_map_of_mem (PhraseFile.templateOf_ok htemplate).1
  obtain ⟨s, hs, hslocale, hsok⟩ := Bundle.exists_setOf hlocale
  obtain rfl : templateSet = s := Except.ok.inj (hset.symm.trans hsok)
  exact ⟨{
    reference := r
    files := files
    template := template
    sets := sets
    templateSet := templateSet
    reference_eq := hr
    files_eq := hfiles
    template_eq := htemplate
    groups_eq := rfl
    fallback := hfallback
    loads := hloads
    templateSet_mem := hs
    templateSet_locale := hslocale
    accessors := haccessors
    accepts := Schema.checkAll_eq_ok_iff.mp hchecked
    bundles := Bundle.ofGroups_ok (mem_locales_of_loads hloads) hbundles
    table_eq := rfl
    outputs_eq := rfl }⟩

/-- Where every stage goes well, the run makes what the stages give. -/
theorem build_of_stages {r : Reference} {files : List PhraseFile} {template : PhraseFile}
    {groups : List LanguageGroup} {sets : List PhraseSet} {t : PhraseSet} {bundles : List Bundle}
    (hr : g.reference = .ok r)
    (hfiles : (PhraseFile.inDirectory d g.settings.inputDir r).outcome = .ok files)
    (htemplate : PhraseFile.templateOf files g.settings.inputDir g.settings.template =
      .ok template)
    (hgroups : Groups.ofLocales (files.map (·.locale)) = groups)
    (hfallback : ∀ l ∈ files.map (·.locale), Locale.default l.language ∈ files.map (·.locale))
    (hsets : (PhraseFile.loadAll d g.loader files).outcome = .ok sets)
    (hset : Bundle.setOf sets template.locale = .ok t)
    (haccessors : ∀ key ∈ t.keys, Identifier.isAccessor key = true)
    (haccepts : ((⟨t.locale, t.path, t.keys⟩ : Schema).checkAll sets).outcome = .ok ())
    (hbundles : (Bundle.ofGroups g.settings.classPrefix sets groups).outcome = .ok bundles) :
    (g.build d).outcome = .ok {
      groups := groups
      bundles := bundles
      table := LookupTable.ofGroups g.settings.classPrefix groups
      outputs :=
        g.outputs r bundles (LookupTable.ofGroups g.settings.classPrefix groups) t.keys } := by
  have hgroups : (Groups.build g.settings.inputDir.toText (files.map (·.locale))).outcome =
      .ok groups :=
    Groups.build_ok_iff.mpr ⟨hgroups.symm, hfallback⟩
  have hschema := Schema.ofTemplate_of_isAccessor haccessors
  rw [outcome_build]
  simp only [hr, hfiles, htemplate, hgroups, hsets, hset, hschema, haccepts, hbundles,
    Trouble.ofFailure, bind, Except.bind]
  rfl

theorem exists_build {r : Reference} {files : List PhraseFile} {template : PhraseFile}
    {sets : List PhraseSet} {t : PhraseSet} (hr : g.reference = .ok r)
    (hfiles : (PhraseFile.inDirectory d g.settings.inputDir r).outcome = .ok files)
    (htemplate : PhraseFile.templateOf files g.settings.inputDir g.settings.template =
      .ok template)
    (hfallback : ∀ l ∈ files.map (·.locale), Locale.default l.language ∈ files.map (·.locale))
    (hsets : (PhraseFile.loadAll d g.loader files).outcome = .ok sets)
    (hset : Bundle.setOf sets template.locale = .ok t)
    (haccessors : ∀ key ∈ t.keys, Identifier.isAccessor key = true)
    (haccepts : ((⟨t.locale, t.path, t.keys⟩ : Schema).checkAll sets).outcome = .ok ()) :
    ∃ made, (g.build d).outcome = .ok made := by
  obtain ⟨bundles, hbundles, _⟩ := Bundle.exists_ofGroups (p := g.settings.classPrefix)
    (mem_locales_of_loads (PhraseFile.loadAll_ok hsets))
  exact ⟨_, build_of_stages hr hfiles htemplate rfl hfallback hsets hset haccessors haccepts
    hbundles⟩

namespace Stages

variable (st : Stages g d made)
include st

theorem taken : PhraseFile.Taken st.reference st.files :=
  (PhraseFile.inDirectory_ok st.files_eq).1

theorem nodup_sets : (st.sets.map (·.locale)).Nodup := by
  rw [PhraseFile.map_locale_of_loads st.loads]
  exact st.taken.distinct

/-- The template's set is loaded from the template's file. -/
theorem loads_template : PhraseFile.Loads d g.loader st.template st.templateSet := by
  obtain ⟨f, hf, hloads⟩ := exists_mem_left st.loads st.templateSet_mem
  have hlocale : f.locale = st.template.locale := hloads.locale.symm.trans st.templateSet_locale
  have htemplate := (PhraseFile.templateOf_ok st.template_eq).1
  rwa [List.inj_on_of_nodup_map st.taken.distinct hf htemplate hlocale] at hloads

theorem isPlain_of_mem (plain : st.reference.IsPlain) {l : Locale}
    (hl : l ∈ st.files.map (·.locale)) : l.IsPlain := by
  obtain ⟨f, hf, rfl⟩ := List.mem_map.mp hl
  exact Locale.isPlain_of_parse plain (st.taken.denoted f hf)

/-- With plain tables the locales of the groups are those of the files, in the same order. -/
theorem locales_groups (plain : st.reference.IsPlain) :
    Groups.locales made.groups = st.files.map (·.locale) := by
  rw [st.groups_eq]
  exact Groups.locales_ofLocales_eq (PhraseFile.inDirectory_ok st.files_eq).2 st.taken.distinct
    fun l hl => (st.isPlain_of_mem plain hl).region_ne_nil

theorem map_locale_classes (plain : st.reference.IsPlain) :
    (Bundle.classes made.bundles).map (·.locale) = st.files.map (·.locale) := by
  rw [Bundle.map_locale_classes st.bundles, st.locales_groups plain]

theorem exists_class (plain : st.reference.IsPlain) {l : Locale}
    (hl : l ∈ st.files.map (·.locale)) :
    ∃ c ∈ Bundle.classes made.bundles, c.locale = l := by
  rw [← st.map_locale_classes plain] at hl
  exact List.mem_map.mp hl

theorem made_of_mem {c : AccessorClass} (hc : c ∈ Bundle.classes made.bundles) :
    Bundle.Made g.settings.classPrefix st.sets c :=
  Bundle.made_of_mem_classes st.bundles hc

theorem name_of_mem {c : AccessorClass} (hc : c ∈ Bundle.classes made.bundles) :
    c.name = g.settings.classPrefix.classOf c.locale := by
  obtain ⟨s, _, rfl⟩ := st.made_of_mem hc
  rfl

theorem parent_class {c : AccessorClass} (hc : c ∈ Bundle.classes made.bundles) :
    c.parent = if c.locale.isDefault then g.settings.classPrefix.base
      else g.settings.classPrefix.classOf (.default c.locale.language) := by
  obtain ⟨s, _, rfl⟩ := st.made_of_mem hc
  rfl

theorem isPlain_class (plain : st.reference.IsPlain) {c : AccessorClass}
    (hc : c ∈ Bundle.classes made.bundles) : c.locale.IsPlain := by
  apply st.isPlain_of_mem plain
  rw [← st.map_locale_classes plain]
  exact List.mem_map_of_mem hc

/-- With plain tables a class is determined by its locale, and so by its name. -/
theorem class_eq_of_locale (plain : st.reference.IsPlain) {b c : AccessorClass}
    (hb : b ∈ Bundle.classes made.bundles) (hc : c ∈ Bundle.classes made.bundles)
    (h : b.locale = c.locale) : b = c := by
  have hnodup : ((Bundle.classes made.bundles).map (·.locale)).Nodup := by
    rw [st.map_locale_classes plain]
    exact st.taken.distinct
  exact List.inj_on_of_nodup_map hnodup hb hc h

theorem class_eq_of_name (plain : st.reference.IsPlain) {b c : AccessorClass}
    (hb : b ∈ Bundle.classes made.bundles) (hc : c ∈ Bundle.classes made.bundles)
    (h : b.name = c.name) : b = c := by
  apply st.class_eq_of_locale plain hb hc
  rw [st.name_of_mem hb, st.name_of_mem hc] at h
  exact ClassPrefix.classOf_inj (st.isPlain_class plain hb) (st.isPlain_class plain hc) h

end Stages

/-! ### A small run -/

/-- The usual settings for an input directory and a template. -/
def settingsFor (dir : Path) (template : Text) : Settings where
  inputDir := dir
  outputDir := ⟨.relative, ["locale-output"]⟩
  template := template
  classPrefix := .usual
  displayLocale := "en"

/-- A disk with two phrase files. -/
def smallDisk : Disk where
  root := .directory [("fr.json", .file []), ("fr_CA.json", .file [])]
  workingDirectory := []

def smallReference : Reference where
  languages := [("fr", "French")]
  regions := [("CA", "Canada")]

/-- A generator for French. -/
def small : Generator where
  settings := settingsFor ⟨.relative, []⟩ "fr"
  source := .given smallReference
  loader := Phrases.memoryLoader
    [("fr.json", [("hello", "Bonjour"), ("bye", "Au revoir")]), ("fr_CA.json", [("hello", "Allô")])]

def smallFiles : List PhraseFile :=
  [⟨⟨"fr", none⟩, ⟨.relative, ["fr.json"]⟩⟩, ⟨⟨"fr", some "CA"⟩, ⟨.relative, ["fr_CA.json"]⟩⟩]

def smallSets : List PhraseSet :=
  [⟨⟨"fr", none⟩, ⟨.relative, ["fr.json"]⟩, [("hello", "Bonjour"), ("bye", "Au revoir")]⟩,
    ⟨⟨"fr", some "CA"⟩, ⟨.relative, ["fr_CA.json"]⟩, [("hello", "Allô")]⟩]

theorem inDirectory_small :
    (PhraseFile.inDirectory smallDisk ⟨.relative, []⟩ smallReference).outcome =
      .ok smallFiles := by
  have hdir : smallDisk.isDirectory ⟨.relative, []⟩ = .ok true := rfl
  have hnames : PhraseFile.names smallDisk ⟨.relative, []⟩ = .ok ["fr.json", "fr_CA.json"] := by
    cbv
  have htake : (PhraseFile.take smallReference []
      (List.map (Path.joinText ⟨.relative, []⟩) ["fr.json", "fr_CA.json"])).outcome =
        .ok smallFiles := by
    decide +kernel
  simp only [PhraseFile.inDirectory, hdir, hnames, Traced.outcome_bind, htake]
  show Except.ok _ = _
  rw [List.mergeSort_of_pairwise (by decide +kernel)]

theorem exists_build_small : ∃ made, (small.build smallDisk).outcome = .ok made := by
  have htemplate : PhraseFile.templateOf smallFiles ⟨.relative, []⟩ "fr" =
      .ok ⟨⟨"fr", none⟩, ⟨.relative, ["fr.json"]⟩⟩ := by
    decide +kernel
  have hsets : (PhraseFile.loadAll smallDisk small.loader smallFiles).outcome = .ok smallSets := by
    decide +kernel
  have hfallback : ∀ l ∈ smallFiles.map (·.locale),
      Locale.default l.language ∈ smallFiles.map (·.locale) := by
    decide +kernel
  exact exists_build rfl inDirectory_small htemplate hfallback hsets rfl
    (by decide +kernel) (by decide +kernel)

end Phrasebook.Generator
