import Mathlib
import Phrasebook.Proofs.Emitted.LookupTable
import Phrasebook.Proofs.Generation.Contents

/-! Adding a region to a language. One more phrase file that keeps to the template's keys, for a
region that the language does not have yet, changes the module of that language and the lookup
module, and no request but the one for the new locale. -/

namespace Phrasebook

/-! ### One more file -/

/-- In a directory one more phrase file stands, wherever it is listed. -/
structure Disk.AddsFile (d d' : Disk) (dir : Path) (name : Text) (content : Bytes) : Prop where
  wellFormed : d.WellFormed
  wellFormed' : d'.WellFormed
  held : ∃ held held', d.find dir = .ok (.directory held) ∧
    d'.find dir = .ok (.directory held') ∧ held'.Perm ((name, .file content) :: held)
  ending : nameSuffix name = PhraseFile.ending

namespace Disk.AddsFile

variable {d d' : Disk} {dir : Path} {name : Text} {content : Bytes}
  (h : d.AddsFile d' dir name content)
include h

theorem mem_phraseFiles (e : Text × Bytes) :
    e ∈ d'.phraseFiles dir ↔ e = (name, content) ∨ e ∈ d.phraseFiles dir := by
  obtain ⟨held, held', hheld, hheld', hperm⟩ := h.held
  obtain ⟨name', content'⟩ := e
  rw [Disk.mem_phraseFiles hheld, Disk.mem_phraseFiles hheld', hperm.mem_iff, List.mem_cons,
    Prod.mk.injEq, Prod.mk.injEq, DiskNode.file.injEq]
  constructor
  · rintro ⟨⟨rfl, rfl⟩ | he, hsuffix⟩
    · exact .inl ⟨rfl, rfl⟩
    · exact .inr ⟨he, hsuffix⟩
  · rintro (⟨rfl, rfl⟩ | ⟨he, hsuffix⟩)
    · exact ⟨.inl ⟨rfl, rfl⟩, h.ending⟩
    · exact ⟨.inr he, hsuffix⟩

/-- What is loaded from the new file is what it holds. -/
theorem ofBytes_of_loads {entries : Phrases}
    (hloads : Generator.fileLoader d' (dir.joinText name) = .ok entries) :
    byteLength (dir.joinText name).toText ≤ maxPathLength ∧
      Phrases.ofBytes Phrases.maxFileSize content = .ok entries := by
  obtain ⟨held, held', -, hheld', hperm⟩ := h.held
  have hmem : (name, DiskNode.file content) ∈ held' := hperm.mem_iff.mpr (List.mem_cons_self ..)
  obtain ⟨bytes, hread, hbytes⟩ := Phrases.exists_of_fileLoader hloads
  have hfile := Disk.find_of_read hread
  have hlength := (Disk.find_eq_ok_iff.mp hfile).1
  have hentry := Disk.find_joinText hheld' (h.wellFormed'.properEntries hheld') hmem hlength
  obtain rfl := DiskNode.file.inj (Except.ok.inj (hentry.symm.trans hfile))
  exact ⟨hlength, hbytes⟩

theorem short (hshort : ¬d.IsOverlong dir)
    (hlength : byteLength (dir.joinText name).toText ≤ maxPathLength) : ¬d'.IsOverlong dir := by
  obtain ⟨held, held', hheld, hheld', hperm⟩ := h.held
  apply not_isOverlong hheld'
  intro e he
  rcases List.mem_cons.mp (hperm.mem_iff.mp he) with rfl | he
  · exact hlength
  · by_contra hlong
    exact hshort (.inr ⟨held, hheld, e, he, Nat.lt_of_not_le hlong⟩)

end Disk.AddsFile

namespace Generator

/-- One more file stands for a region that its language does not have yet. It loads, and has no keys
but the template's. -/
structure AddsVariant (s : Settings) (r : Reference) (d d' : Disk) (language region : Text)
    (name : Text) (content : Bytes) (entries : Phrases) : Prop where
  adds : d.AddsFile d' s.inputDir name content
  locale : Locale.ofFileName r name = .ok ⟨language, some region⟩
  known : ∃ region', Has r (d.phraseFiles s.inputDir) ⟨language, region'⟩
  new : ¬Has r (d.phraseFiles s.inputDir) ⟨language, some region⟩
  loads : fileLoader d' (s.inputDir.joinText name) = .ok entries
  keys : ∀ l declared, Gives r (d.phraseFiles s.inputDir) l declared →
    l.canonical = PhraseFile.wantedTemplate s.template →
    ∀ key ∈ entries.map (·.1), key ∈ declared.map (·.1)

namespace AddsVariant

variable {s : Settings} {r : Reference} {d d' : Disk} {language region : Text} {name : Text}
  {content : Bytes} {entries : Phrases} {made made' : Generated}
  (h : AddsVariant s r d d' language region name content entries)
include h

theorem has_iff (l : Locale) : Has r (d'.phraseFiles s.inputDir) l ↔
    l = ⟨language, some region⟩ ∨ Has r (d.phraseFiles s.inputDir) l := by
  simp only [Has, h.adds.mem_phraseFiles]
  constructor
  · rintro ⟨e, rfl | he, hl⟩
    · exact .inl (Except.ok.inj (hl.symm.trans h.locale))
    · exact .inr ⟨e, he, hl⟩
  · rintro (rfl | ⟨e, he, hl⟩)
    · exact ⟨_, .inl rfl, h.locale⟩
    · exact ⟨e, .inr he, hl⟩

theorem gives_iff (l : Locale) (es : Phrases) : Gives r (d'.phraseFiles s.inputDir) l es ↔
    (l = ⟨language, some region⟩ ∧ es = entries) ∨ Gives r (d.phraseFiles s.inputDir) l es := by
  have hcontent := (h.adds.ofBytes_of_loads h.loads).2
  simp only [Gives, h.adds.mem_phraseFiles]
  constructor
  · rintro ⟨e, rfl | he, hl, hes⟩
    · exact .inl ⟨Except.ok.inj (hl.symm.trans h.locale), Except.ok.inj (hes.symm.trans hcontent)⟩
    · exact .inr ⟨e, he, hl, hes⟩
  · rintro (⟨rfl, rfl⟩ | ⟨e, he, hl, hes⟩)
    · exact ⟨_, .inl rfl, h.locale, hcontent⟩
    · exact ⟨e, .inr he, hl, hes⟩

/-- The new file is not the template. -/
theorem not_wanted (htemplate : (requiresTemplate r (d.phraseFiles s.inputDir) s.template).holds) :
    Locale.canonical ⟨language, some region⟩ ≠ PhraseFile.wantedTemplate s.template := by
  intro hwanted
  obtain ⟨l, hl, hcanonical⟩ := htemplate
  obtain ⟨e, he, hlocale⟩ := hl
  have heq := Locale.canonical_inj (Locale.separator_notMem_language h.locale)
    (Locale.separator_notMem_language hlocale) (hwanted.trans hcanonical.symm)
  exact h.new ⟨e, he, hlocale.trans (congrArg Except.ok heq.symm)⟩

/-! ### What generation asks of its input -/

theorem holds_names (hnames : (requiresNames r (d.phraseFiles s.inputDir)).holds) :
    (requiresNames r (d'.phraseFiles s.inputDir)).holds := by
  have hdistinct {e : Text × Bytes} (he : e ∈ d.phraseFiles s.inputDir) {l : Locale}
      (hl : Locale.ofFileName r e.1 = .ok l) (hnew : Locale.ofFileName r name = .ok l) :
      False := by
    obtain rfl := Except.ok.inj (hnew.symm.trans h.locale)
    exact h.new ⟨e, he, hl⟩
  constructor
  · intro e he
    rcases (h.adds.mem_phraseFiles e).mp he with rfl | he
    · exact ⟨_, h.locale⟩
    · exact hnames.1 e he
  · intro e he e' he' l hl hl'
    rcases (h.adds.mem_phraseFiles e).mp he with rfl | he <;>
      rcases (h.adds.mem_phraseFiles e').mp he' with rfl | he'
    · rfl
    · exact (hdistinct he' hl' hl).elim
    · exact (hdistinct he hl hl').elim
    · exact hnames.2 e he e' he' l hl hl'

theorem holds_fallback (hfallback : (requiresFallback r (d.phraseFiles s.inputDir)).holds) :
    (requiresFallback r (d'.phraseFiles s.inputDir)).holds := by
  intro l hl
  rw [h.has_iff]
  rcases (h.has_iff l).mp hl with rfl | hl
  · obtain ⟨region', hregion'⟩ := h.known
    exact .inr (hfallback ⟨language, region'⟩ hregion')
  · exact .inr (hfallback l hl)

theorem holds_phrases (hphrases : (requiresPhrases (d.phraseFiles s.inputDir)).holds) :
    (requiresPhrases (d'.phraseFiles s.inputDir)).holds := by
  intro e he
  rcases (h.adds.mem_phraseFiles e).mp he with rfl | he
  · have hcontent := (h.adds.ofBytes_of_loads h.loads).2
    exact ⟨entries, hcontent, Phrases.nodup_keys_of_ofBytes hcontent⟩
  · exact hphrases e he

/-- Only the new file has to keep to the template's keys, and as a region's it may lack some. -/
theorem holds_agreement
    (htemplate : (requiresTemplate r (d.phraseFiles s.inputDir) s.template).holds)
    (hagreement : (requiresAgreement r (d.phraseFiles s.inputDir) s.template).holds) :
    (requiresAgreement r (d'.phraseFiles s.inputDir) s.template).holds := by
  intro l declared hgives hcanonical l' es hgives'
  rcases (h.gives_iff l declared).mp hgives with ⟨rfl, rfl⟩ | hgives
  · exact absurd hcanonical (h.not_wanted htemplate)
  · rcases (h.gives_iff l' es).mp hgives' with ⟨rfl, rfl⟩ | hgives'
    · exact ⟨h.keys l declared hgives hcanonical, fun hregion => absurd hregion (by simp)⟩
    · exact hagreement l declared hgives hcanonical l' es hgives'

theorem requirements_hold (hbuild : ((reading s r).build d).outcome = .ok made) :
    ∀ q ∈ requirements s r d', q.holds := by
  obtain ⟨st⟩ := stages_of_build hbuild
  have wf := h.adds.wellFormed
  have hshort := (PhraseFile.standing_of_inDirectory wf st.found).1
  have hbefore := (decides_build_of_short (s := s) wf hshort).returns_iff.mp ⟨made, hbuild⟩
  simp only [requirements, List.forall_mem_cons] at hbefore ⊢
  obtain ⟨-, hnames, htemplate, hfallback, hphrases, haccessors, hagreement, -⟩ := hbefore
  refine ⟨?_, h.holds_names hnames, ?_, h.holds_fallback hfallback, h.holds_phrases hphrases, ?_,
    h.holds_agreement htemplate hagreement, by simp⟩
  · obtain ⟨_, held', _, hheld', _⟩ := h.adds.held
    exact ⟨held', hheld'⟩
  · obtain ⟨l, hl, hcanonical⟩ := htemplate
    exact ⟨l, (h.has_iff l).mpr (.inr hl), hcanonical⟩
  · intro l es hgives hcanonical
    rcases (h.gives_iff l es).mp hgives with ⟨rfl, rfl⟩ | hgives
    · exact absurd hcanonical (h.not_wanted htemplate)
    · exact haccessors l es hgives hcanonical

/-! ### What is made -/

section Compared

variable (st : Stages (reading s r) d made) (st' : Stages (reading s r) d' made')
include st st'

theorem mem_locales (l : Locale) : l ∈ Groups.locales made'.groups ↔
    l = ⟨language, some region⟩ ∨ l ∈ Groups.locales made.groups := by
  rw [st.groups_eq, st'.groups_eq, Groups.mem_locales_ofLocales, Groups.mem_locales_ofLocales,
    ← (st.discovered h.adds.wellFormed).has_iff, ← (st'.discovered h.adds.wellFormed').has_iff]
  exact h.has_iff l

/-- The groups are those of the same languages, and all but one are unchanged. -/
theorem forall₂_groups : List.Forall₂
    (fun g g' : LanguageGroup => g'.language = g.language ∧ (g.language ≠ language → g' = g))
    made.groups made'.groups := by
  have hmem (l : Locale) : l ∈ st'.files.map (·.locale) ↔
      l = ⟨language, some region⟩ ∨ l ∈ st.files.map (·.locale) := by
    rw [← (st.discovered h.adds.wellFormed).has_iff, ← (st'.discovered h.adds.wellFormed').has_iff]
    exact h.has_iff l
  have hlanguages : Groups.sorted ((st'.files.map (·.locale)).map (·.language)) =
      Groups.sorted ((st.files.map (·.locale)).map (·.language)) := by
    obtain ⟨region', hregion'⟩ := h.known
    rw [(st.discovered h.adds.wellFormed).has_iff] at hregion'
    apply Groups.sorted_congr
    intro t
    simp only [List.mem_map (f := Locale.language), hmem]
    constructor
    · rintro ⟨l, rfl | hl, rfl⟩
      · exact ⟨_, hregion', rfl⟩
      · exact ⟨l, hl, rfl⟩
    · rintro ⟨l, hl, rfl⟩
      exact ⟨l, .inr hl, rfl⟩
  rw [st.groups_eq, st'.groups_eq, Groups.ofLocales, Groups.ofLocales, hlanguages,
    List.forall₂_map_left_iff, List.forall₂_map_right_iff, List.forall₂_same]
  refine fun language' _ => ⟨rfl, fun hne => ?_⟩
  apply Groups.ofLanguage_congr
  intro region'
  rw [hmem, or_iff_right]
  intro heq
  exact hne (congrArg Locale.language heq)

theorem forall₂_bundles : List.Forall₂
    (fun b b' : Bundle => b'.1 = b.1 ∧ (b.1 ≠ language → b' = b)) made.bundles made'.bundles := by
  have hagree : Bundle.Agree st.sets st'.sets :=
    (st.loaded h.adds.wellFormed).agree (st'.loaded h.adds.wellFormed')
      fun l es hgives => (h.gives_iff l es).mpr (.inr hgives)
  refine Bundle.forall₂_of_groups ?_ (h.forall₂_groups st st') st.bundles st'.bundles
  rintro g g' b b' ⟨hlanguage, hsame⟩ hb hb'
  refine ⟨hb'.language.trans (hlanguage.trans hb.language.symm), fun hne => ?_⟩
  obtain rfl := hsame (hb.language ▸ hne)
  exact (hb.eq hagree hb').symm

theorem forall₂_outputs : List.Forall₂ (fun o o' : Text × Text => o'.1 = o.1 ∧
    (o.1 ≠ moduleFile (s.classPrefix.moduleOf language) →
      o.1 ≠ moduleFile s.classPrefix.lookupModule → o'.2 = o.2)) made.outputs made'.outputs := by
  have hbundles := h.forall₂_bundles st st'
  rw [st.outputs_eq, st'.outputs_eq, st.reference_reading, st'.reference_reading]
  apply List.rel_append
  · rw [List.forall₂_map_left_iff, List.forall₂_map_right_iff]
    refine hbundles.imp ?_
    rintro b b' ⟨hlanguage, hsame⟩
    have hfile {language' : Text} (heq : language' = b.1) :
        moduleFile (s.classPrefix.moduleOf language') =
          moduleFile (s.classPrefix.moduleOf b.1) := by
      rw [heq]
    refine ⟨hfile hlanguage, fun hmodule _ => ?_⟩
    obtain rfl := hsame fun heq => hmodule (hfile heq.symm).symm
    rfl
  · exact .cons ⟨rfl, fun _ hlookup => absurd rfl hlookup⟩ (.cons ⟨rfl, fun _ _ => rfl⟩ .nil)

theorem resolve_other {language' : Text} {region' : Option Text}
    (hne : (language', region') ≠ (language, some region)) :
    made'.table.resolve language' region' = made.table.resolve language' region' := by
  have hlocales := h.mem_locales st st'
  rw [st.table_eq, st'.table_eq]
  apply LookupTable.resolve_congr
  · rintro code rfl
    rw [hlocales, or_iff_right]
    intro heq
    obtain ⟨rfl, hcode⟩ := Locale.mk.inj heq
    exact hne (by rw [hcode])
  · rw [hlocales, or_iff_right]
    exact fun heq => absurd (congrArg Locale.region heq) (by simp [Locale.default])

theorem resolve_new : made'.table.resolve language (some region) =
    .ok (LookupTarget.ofLocale s.classPrefix ⟨language, some region⟩) := by
  have hmem := (h.mem_locales st st' ⟨language, some region⟩).mpr (.inl rfl)
  rw [st'.table_eq, LookupTable.resolve_ofGroups, if_pos hmem]
  rfl

end Compared

theorem exists_build (hbuild : ((reading s r).build d).outcome = .ok made) :
    ∃ made', ((reading s r).build d').outcome = .ok made' := by
  obtain ⟨st⟩ := stages_of_build hbuild
  have hlength := (h.adds.ofBytes_of_loads h.loads).1
  have hshort := (PhraseFile.standing_of_inDirectory h.adds.wellFormed st.found).1
  have hdecides := decides_build_of_short (s := s) (r := r) h.adds.wellFormed'
    (h.adds.short hshort hlength)
  exact hdecides.returns_iff.mpr (h.requirements_hold hbuild)

end AddsVariant

/-- One more region for a language: the package is still made. The modules stand under the same
names in the same order, and all but that of the language and the lookup module are what they were.
Every request but the one for the new locale has the answer it had, and that one has the new
class. -/
theorem build_of_variant (h : AddsVariant s r d d' language region name content entries)
    (hbuild : ((reading s r).build d).outcome = .ok made) :
    ∃ made', ((reading s r).build d').outcome = .ok made' ∧
      List.Forall₂ (fun o o' => o'.1 = o.1 ∧
        (o.1 ≠ moduleFile (s.classPrefix.moduleOf language) →
          o.1 ≠ moduleFile s.classPrefix.lookupModule → o'.2 = o.2)) made.outputs made'.outputs ∧
      (∀ language' region', (language', region') ≠ (language, some region) →
        made'.table.resolve language' region' = made.table.resolve language' region') ∧
      made'.table.resolve language (some region) =
        .ok (LookupTarget.ofLocale s.classPrefix ⟨language, some region⟩) := by
  obtain ⟨made', hbuild'⟩ := h.exists_build hbuild
  obtain ⟨st⟩ := stages_of_build hbuild
  obtain ⟨st'⟩ := stages_of_build hbuild'
  exact ⟨made', hbuild', h.forall₂_outputs st st', fun _ _ => h.resolve_other st st',
    h.resolve_new st st'⟩

/-! ### English for America -/

def american : Bytes :=
  Utf8.encodeChars "\x7b\"hello\": \"Hi\"\x7d".toList

def withAmerican : List (Text × DiskNode) :=
  ("EN-us.json", .file american) :: bilingual

theorem addsFile_american : (packed bilingual).AddsFile (packed withAmerican) greetingDir
    "EN-us.json" american where
  wellFormed := wellFormed_packed proper_bilingual
  wellFormed' := wellFormed_packed
    (proper_bilingual.cons (by decide) (by decide) (DiskNode.proper_file american))
  held := ⟨_, _, find_packed bilingual, find_packed withAmerican, .refl _⟩
  ending := by decide

theorem addsVariant_american : AddsVariant (settingsFor greetingDir "en") bilingualReference
    (packed bilingual) (packed withAmerican) "en" "US" "EN-us.json" american
    [("hello", "Hi")] := by
  have hcontents := hasContents_bilingual
  have hread : (packed withAmerican).read (greetingDir.joinText "EN-us.json") = .ok american := by
    rfl
  exact {
    adds := addsFile_american
    locale := by decide
    known := ⟨none, (hcontents.has_iff _).mpr (by decide)⟩
    new := fun hhas => absurd ((hcontents.has_iff _).mp hhas) (by decide)
    loads := (Phrases.fileLoader_ok_iff (by decide) hread).mpr (by decide +kernel)
    keys := by
      intro l declared hgives
      have hmem := (hcontents.gives_iff l declared).mp hgives
      have hall : ∀ c ∈ bilingualContents, c.1.canonical = PhraseFile.wantedTemplate "en" →
          ("hello" : Text) ∈ c.2.map (·.1) := by
        decide +kernel
      intro hcanonical
      rw [List.map_singleton, List.forall_mem_singleton]
      exact hall _ hmem hcanonical }

theorem build_of_variant_american :
    AddsVariant (settingsFor greetingDir "en") bilingualReference (packed bilingual)
      (packed withAmerican) "en" "US" "EN-us.json" american [("hello", "Hi")] ∧
    ∃ made made',
      ((reading (settingsFor greetingDir "en") bilingualReference).build
        (packed bilingual)).outcome = .ok made ∧
      ((reading (settingsFor greetingDir "en") bilingualReference).build
        (packed withAmerican)).outcome = .ok made' ∧
      List.Forall₂ (fun o o' => o'.1 = o.1 ∧
        (o.1 ≠ moduleFile (ClassPrefix.usual.moduleOf "en") →
          o.1 ≠ moduleFile ClassPrefix.usual.lookupModule → o'.2 = o.2))
        made.outputs made'.outputs ∧
      (∀ language' region', (language', region') ≠ (("en" : Text), some ("US" : Text)) →
        made'.table.resolve language' region' = made.table.resolve language' region') ∧
      made'.table.resolve "en" (some "US") =
        .ok (LookupTarget.ofLocale ClassPrefix.usual ⟨"en", some "US"⟩) := by
  obtain ⟨made, hmade⟩ := exists_build_bilingual (.inl rfl)
  obtain ⟨made', hmade', hmodules, hothers, hnew⟩ := build_of_variant addsVariant_american hmade
  exact ⟨addsVariant_american, made, made', hmade, hmade', hmodules, hothers, hnew⟩

end Generator

end Phrasebook
