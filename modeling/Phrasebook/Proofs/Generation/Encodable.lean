import Mathlib
import Phrasebook.Proofs.Disk.Refusals
import Phrasebook.Proofs.Emitted.LookupTable
import Phrasebook.Proofs.Emitted.Modules
import Phrasebook.Proofs.Generation.Contents
import Phrasebook.Proofs.Text.Surrogates

/-! The modules of a run can be encoded. The class prefix and the keys are identifiers, and locales
have their codes and names from the reference tables. With tables that can be encoded, nothing that
stands in a module unquoted holds a surrogate, whatever the phrases hold. -/

namespace Phrasebook

/-! ### What locales bring in -/

/-- Tables without surrogates in codes and names. -/
structure Reference.IsEncodable (r : Reference) : Prop where
  languages : ∀ entry ∈ r.languages, Text.IsEncodable entry.1 ∧ Text.IsEncodable entry.2
  regions : ∀ entry ∈ r.regions, Text.IsEncodable entry.1 ∧ Text.IsEncodable entry.2

/-- A locale without surrogates in its codes. -/
structure Locale.IsEncodable (l : Locale) : Prop where
  language : l.language.IsEncodable
  region : ∀ code, l.region = some code → code.IsEncodable

variable {p : ClassPrefix} {r : Reference} {l : Locale}

theorem Text.isEncodable_lookup_getD {table : List (Text × Text)} {code : Text}
    (h : ∀ entry ∈ table, Text.IsEncodable entry.2) (hcode : code.IsEncodable) :
    ((table.lookup code).getD code).IsEncodable := by
  cases hname : table.lookup code with
  | none => exact hcode
  | some name =>
    obtain ⟨before, after, htable, _⟩ := List.lookup_eq_some_iff.mp hname
    exact h (code, name) (by simp [htable])

namespace Reference.IsEncodable

variable {code : Text}

theorem of_hasLanguage (h : r.IsEncodable) (hknown : r.hasLanguage code = true) :
    code.IsEncodable := by
  obtain ⟨entry, hentry, rfl⟩ := mem_of_lookup_isSome hknown
  exact (h.languages entry hentry).1

theorem of_hasRegion (h : r.IsEncodable) (hknown : r.hasRegion code = true) :
    code.IsEncodable := by
  obtain ⟨entry, hentry, rfl⟩ := mem_of_lookup_isSome hknown
  exact (h.regions entry hentry).1

theorem languageName (h : r.IsEncodable) (hcode : code.IsEncodable) :
    (r.languageName code).IsEncodable :=
  Text.isEncodable_lookup_getD (fun entry hentry => (h.languages entry hentry).2) hcode

theorem regionName (h : r.IsEncodable) (hcode : code.IsEncodable) :
    (r.regionName code).IsEncodable :=
  Text.isEncodable_lookup_getD (fun entry hentry => (h.regions entry hentry).2) hcode

theorem inWords (h : r.IsEncodable) (hl : l.IsEncodable) : (r.inWords l).IsEncodable := by
  unfold Reference.inWords
  cases hregion : l.region with
  | none => exact h.languageName hl.language
  | some code => simp [h.languageName hl.language, h.regionName (hl.region code hregion)]

theorem of_parse (h : r.IsEncodable) {code : Text} (hl : Locale.parse r code = .ok l) :
    l.IsEncodable := by
  rcases Locale.parse_cases hl with
    ⟨tag, _, hlanguage, rfl⟩ | ⟨tag, sub, _, hlanguage, hregion, rfl⟩
  · exact ⟨h.of_hasLanguage hlanguage, by simp⟩
  · refine ⟨h.of_hasLanguage hlanguage, ?_⟩
    rintro region ⟨⟩
    exact h.of_hasRegion hregion

end Reference.IsEncodable

namespace ClassPrefix

variable (p)

theorem isEncodable_text : p.text.IsEncodable :=
  Identifier.isEncodable_of_isClassPrefix p.accepted

theorem isEncodable_lookupModule : p.lookupModule.IsEncodable :=
  p.isEncodable_text.lower

theorem isEncodable_moduleOf {language : Text} (h : language.IsEncodable) :
    (p.moduleOf language).IsEncodable := by
  simp [moduleOf, p.isEncodable_lookupModule, h]

theorem isEncodable_classOf (h : l.IsEncodable) : (p.classOf l).IsEncodable := by
  unfold classOf
  cases hregion : l.region with
  | none => simp [p.isEncodable_text, h.language.titled]
  | some code => simp [p.isEncodable_text, h.language.titled, (h.region code hregion).titled]

end ClassPrefix

theorem Locale.IsEncodable.canonical (h : l.IsEncodable) : l.canonical.IsEncodable := by
  have hseparator : separator.isSurrogate = false := by decide
  unfold Locale.canonical
  cases hregion : l.region with
  | none => exact h.language
  | some code => simp [h.language, hseparator, h.region code hregion]

theorem Locale.IsEncodable.default (h : l.IsEncodable) : (Locale.default l.language).IsEncodable :=
  ⟨h.language, by simp [Locale.default]⟩

theorem LookupTarget.isEncodable_ofLocale (h : l.IsEncodable) :
    (LookupTarget.ofLocale p l).IsEncodable :=
  ⟨p.isEncodable_classOf h, p.isEncodable_moduleOf h.language⟩

theorem AccessorClass.isEncodable_ofSet {s : PhraseSet} (h : r.IsEncodable)
    (hlocale : s.locale.IsEncodable) (hkeys : ∀ key ∈ s.keys, key.IsEncodable) :
    (AccessorClass.ofSet p s).IsEncodable r where
  name := p.isEncodable_classOf hlocale
  parent := by
    unfold ofSet
    dsimp only
    split_ifs
    · exact p.isEncodable_text
    · exact p.isEncodable_classOf hlocale.default
  canonical := hlocale.canonical
  words := h.inWords hlocale
  keys member hmember := hkeys member.1 (List.mem_map_of_mem hmember)

/-! ### The outputs -/

namespace Generator

variable {g : Generator} {d : Disk} {made : Generated}

namespace Stages

variable (st : Stages g d made)
include st

theorem isEncodable_locale (h : st.reference.IsEncodable) :
    ∀ l ∈ Groups.locales made.groups, l.IsEncodable := by
  intro l hl
  rw [st.groups_eq, Groups.mem_locales_ofLocales] at hl
  obtain ⟨f, hf, rfl⟩ := List.mem_map.mp hl
  exact h.of_parse (st.taken.denoted f hf)

theorem isEncodable_language (h : st.reference.IsEncodable) {b : Bundle} (hb : b ∈ made.bundles) :
    b.1.IsEncodable := by
  have hlanguage : b.1 ∈ made.groups.map (·.language) :=
    Bundle.map_language st.bundles ▸ List.mem_map_of_mem hb
  rw [st.groups_eq, Groups.map_language_ofLocales, Groups.mem_sorted] at hlanguage
  obtain ⟨l, hl, hlanguage⟩ := List.mem_map.mp hlanguage
  have hgrouped : l ∈ Groups.locales made.groups := by
    rwa [st.groups_eq, Groups.mem_locales_ofLocales]
  exact hlanguage ▸ (st.isEncodable_locale h l hgrouped).language

/-- The keys of every file are keys of the template, which name accessors. -/
theorem isEncodable_key {s : PhraseSet} (hs : s ∈ st.sets) :
    ∀ key ∈ s.keys, key.IsEncodable :=
  fun key hkey => Identifier.isEncodable_of_isAccessor
    (st.accessors key ((st.accepts s hs).known key hkey))

theorem isEncodable_class (h : st.reference.IsEncodable) {c : AccessorClass}
    (hc : c ∈ Bundle.classes made.bundles) : c.IsEncodable st.reference := by
  have hlocale : c.locale ∈ Groups.locales made.groups :=
    Bundle.map_locale_classes st.bundles ▸ List.mem_map_of_mem hc
  obtain ⟨s, hs, rfl⟩ := st.made_of_mem hc
  exact AccessorClass.isEncodable_ofSet h (st.isEncodable_locale h _ hlocale)
    (st.isEncodable_key hs)

theorem isEncodable_languageModule (h : st.reference.IsEncodable) {b : Bundle}
    (hb : b ∈ made.bundles) :
    (languageModuleSource g.settings.classPrefix st.reference b).IsEncodable := by
  have hlanguage := st.isEncodable_language h hb
  exact isEncodable_languageModuleSource (ClassPrefix.isEncodable_text _)
    (ClassPrefix.isEncodable_lookupModule _) hlanguage (h.languageName hlanguage)
    fun c hc => st.isEncodable_class h (List.mem_flatMap.mpr ⟨b, hb, hc⟩)

theorem isEncodable_lookupModule (h : st.reference.IsEncodable) :
    (LookupModule.source g.settings.classPrefix made.table st.templateSet.keys).IsEncodable := by
  have hlocale := st.isEncodable_locale h
  rw [st.table_eq]
  refine LookupModule.isEncodable_source (ClassPrefix.isEncodable_text _)
    (ClassPrefix.isEncodable_lookupModule _) (fun l hl => (hlocale l hl).canonical) ?_ ?_
    (st.isEncodable_key st.templateSet_mem)
  · intro e he
    obtain ⟨hl, htarget⟩ := LookupTable.of_mem_byRegion he
    exact htarget ▸ LookupTarget.isEncodable_ofLocale (hlocale _ hl)
  · intro e he
    obtain ⟨hl, htarget⟩ := LookupTable.of_mem_byLanguage he
    exact htarget ▸ LookupTarget.isEncodable_ofLocale (hlocale _ hl)

theorem isEncodable_outputs (h : st.reference.IsEncodable) :
    ∀ o ∈ made.outputs, Text.IsEncodable o.2 := by
  rw [st.outputs_eq, outputs, List.forall_mem_append, List.forall_mem_map, List.forall_mem_cons,
    List.forall_mem_singleton]
  refine ⟨fun b hb => st.isEncodable_languageModule h hb, st.isEncodable_lookupModule h, ?_⟩
  exact isEncodable_packageSource (ClassPrefix.isEncodable_text _)
    (ClassPrefix.isEncodable_lookupModule _)

end Stages

end Generator

/-! ### Writing them -/

namespace Output

variable {tags : List Text} {dir : Path} {d : Disk} {files : List (Text × Text)}
  {e : Utf8.EncodeError}

theorem refusal_ne_encoding {t : Trouble} (h : t.IsOfDisk) (path : Path) :
    refusal path t ≠ .encoding e := by
  cases h <;> simp [refusal]

theorem writeFiles_ne_encoding (h : ∀ f ∈ files, Text.IsEncodable f.2) :
    (writeFiles tags dir d files).2.outcome ≠ .error (.encoding e) := by
  induction files generalizing d with
  | nil => simp [writeFiles]
  | cons f files ih =>
    obtain ⟨name, content⟩ := f
    rw [List.forall_mem_cons] at h
    obtain ⟨bytes, hbytes⟩ := Utf8.exists_encode_iff.mpr h.1
    rcases hreplaced : d.replaceFile tags (dir.joinText name) content with ⟨d', t | u⟩
    · rw [(writeFiles_cons_error files hreplaced).2]
      intro heq
      rcases Disk.replaceFile_error_cases (congrArg Prod.snd hreplaced) with hdisk | ⟨e', he', _⟩
      · exact refusal_ne_encoding hdisk _ (Except.error.inj heq)
      · exact absurd (hbytes.symm.trans he') (by simp)
    · rw [(writeFiles_cons_ok files hreplaced).2]
      intro heq
      cases hrest : (writeFiles tags dir d' files).2.outcome with
      | ok paths => exact absurd heq (by simp [hrest, Except.map])
      | error t =>
        rw [hrest] at heq
        exact ih h.2 (hrest.trans heq)

/-- Writing texts that can be encoded never fails for want of an encoding. -/
theorem write_ne_encoding (h : ∀ f ∈ files, Text.IsEncodable f.2) :
    (write tags dir d files).2.outcome ≠ .error (.encoding e) := by
  cases hbarred : Disk.hasBarred dir with
  | true =>
    rw [write_of_barred hbarred]
    intro heq
    have hdisk := Trouble.isOfDisk_ofBarred dir
    rw [show Trouble.ofBarred dir = .encoding e from Except.error.inj heq] at hdisk
    cases hdisk
  | false =>
    cases hmade : (d.ensureDirectories dir).2 with
    | error t =>
      rw [(write_of_refused tags files hbarred hmade).2]
      intro heq
      exact refusal_ne_encoding (Disk.isOfDisk_of_ensureParts hmade) _ (Except.error.inj heq)
    | ok u =>
      rw [write_of_made tags files hbarred hmade]
      exact writeFiles_ne_encoding h

end Output

namespace Generator

variable {g : Generator} {d : Disk} {made : Generated} {r : Reference}

/-- The outputs of a run can be encoded if the reference tables can, so that writing them never
stops at a text. -/
theorem outputs_encodable (hr : g.reference = .ok r) (h : r.IsEncodable)
    (hbuild : (g.build d).outcome = .ok made) :
    (∀ o ∈ made.outputs, Text.IsEncodable o.2 ∧ ∃ bytes, Utf8.encode o.2 = .ok bytes) ∧
    ∀ tags dir d' e, (Output.write tags dir d' made.outputs).2.outcome ≠ .error (.encoding e) := by
  obtain ⟨st⟩ := stages_of_build hbuild
  obtain rfl : st.reference = r := Except.ok.inj (st.reference_eq.symm.trans hr)
  have hencodable := st.isEncodable_outputs h
  exact ⟨fun o ho => ⟨hencodable o ho, Utf8.exists_encode_iff.mpr (hencodable o ho)⟩,
    fun _ _ _ _ => Output.write_ne_encoding hencodable⟩

/-- A phrase that is half of a pair of escapes. -/
def halved : Bytes :=
  Utf8.encodeChars "\x7b\"hello\": \"\\ud800\"\x7d".toList

def halvedEntries : Phrases := [("hello", [CodePoint.ofNat 0xD800])]

def halvedHeld : List (Text × DiskNode) :=
  [("en.json", .file halved)]

theorem ofBytes_halved : Phrases.ofBytes Phrases.maxFileSize halved = .ok halvedEntries := by
  decide +kernel

theorem exists_build_halved : ∃ made, ((reading (settingsFor greetingDir "en")
    englishReference).build (packed halvedHeld)).outcome = .ok made := by
  have hproper : DiskNode.Proper (.directory halvedHeld) := by
    apply DiskNode.proper_of_entries ⟨by decide, by decide⟩
    simp [halvedHeld, DiskNode.proper_file]
  have hfiles : (packed halvedHeld).phraseFiles greetingDir = [(("en.json" : Text), halved)] := by
    simp only [Disk.phraseFiles, find_packed]
    decide
  have hcontents : HasContents englishReference ((packed halvedHeld).phraseFiles greetingDir)
      [(⟨"en", none⟩, halvedEntries)] := by
    rw [hfiles]
    exact .cons ⟨by decide, ofBytes_halved⟩ .nil
  apply hcontents.exists_build (wellFormed_packed hproper) (find_packed halvedHeld) (by decide)
  constructor <;> decide +kernel

theorem isEncodable_englishReference : englishReference.IsEncodable := by
  constructor <;> decide

theorem outputs_encodable_halved :
    englishReference.IsEncodable ∧
    Phrases.ofBytes Phrases.maxFileSize halved = .ok halvedEntries ∧
    (∃ member ∈ halvedEntries, ¬Text.IsEncodable member.2) ∧
    ∃ made, ((reading (settingsFor greetingDir "en") englishReference).build
      (packed halvedHeld)).outcome = .ok made ∧
      (∀ o ∈ made.outputs, Text.IsEncodable o.2 ∧ ∃ bytes, Utf8.encode o.2 = .ok bytes) ∧
      ∀ tags dir d' e,
        (Output.write tags dir d' made.outputs).2.outcome ≠ .error (.encoding e) := by
  obtain ⟨made, hbuild⟩ := exists_build_halved
  exact ⟨isEncodable_englishReference, ofBytes_halved, by decide, made, hbuild,
    outputs_encodable rfl isEncodable_englishReference hbuild⟩

end Generator

end Phrasebook
