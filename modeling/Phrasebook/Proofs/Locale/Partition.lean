import Mathlib
import Phrasebook.Proofs.Locale.Groups

/-! Groups are the one way to share out locales by language in order. What they are made of
determines them, so that neither the order of the locales nor repetitions among them matter, and
what is grouped once is grouped in the same way again. -/

namespace Phrasebook.Groups

variable {ls : List Locale} {gs : List LanguageGroup}

/-- Groups that share out locales: the languages in order, in each group the default first where it
is given and then the regions in order, and every locale once, in the group of its language. -/
structure IsPartition (ls : List Locale) (gs : List LanguageGroup) : Prop where
  languages : (gs.map (·.language)).Pairwise Text.Precedes
  occupied : ∀ g ∈ gs, g.regions ≠ []
  regions : ∀ g ∈ gs, ∃ codes : List Text, codes.Pairwise Text.Precedes ∧
    g.regions = if Locale.default g.language ∈ ls then none :: codes.map some else codes.map some
  mem_iff : ∀ l, l ∈ locales gs ↔ l ∈ ls
  nodup : (locales gs).Nodup
  own : ∀ g ∈ gs, ∀ l, l ∈ g.locales ↔ l ∈ ls ∧ l.language = g.language

theorem isPartition_ofLocales (ls : List Locale) : IsPartition ls (ofLocales ls) where
  languages := by
    rw [map_language_ofLocales]
    exact pairwise_precedes_sorted _
  occupied g hg := by
    obtain ⟨language, hlanguage, rfl⟩ := List.mem_map.mp hg
    obtain ⟨l, hl, rfl⟩ := mem_languages.mp hlanguage
    exact List.ne_nil_of_mem (mem_regions.mpr hl)
  regions g hg := by
    obtain ⟨language, _, rfl⟩ := List.mem_map.mp hg
    obtain ⟨codes, hpairwise, _, hregions⟩ := exists_codes ls language
    exact ⟨codes, hpairwise, hregions⟩
  mem_iff _ := mem_locales_ofLocales
  nodup := nodup_locales_ofLocales
  own g hg l := by
    obtain ⟨language, _, rfl⟩ := List.mem_map.mp hg
    exact mem_locales_ofLanguage

namespace IsPartition

theorem mem_language_iff (h : IsPartition ls gs) {language : Text} :
    language ∈ gs.map (·.language) ↔ ∃ l ∈ ls, l.language = language := by
  constructor
  · intro hlanguage
    obtain ⟨g, hg, rfl⟩ := List.mem_map.mp hlanguage
    obtain ⟨region, hregion⟩ := List.exists_mem_of_ne_nil _ (h.occupied g hg)
    have hl : (⟨g.language, region⟩ : Locale) ∈ g.locales := List.mem_map_of_mem hregion
    exact ⟨_, ((h.own g hg _).mp hl).1, rfl⟩
  · rintro ⟨l, hl, rfl⟩
    obtain ⟨g, hg, hlg⟩ := List.mem_flatMap.mp ((h.mem_iff l).mpr hl)
    exact List.mem_map.mpr ⟨g, hg, ((h.own g hg l).mp hlg).2.symm⟩

theorem mem_regions_iff (h : IsPartition ls gs) {g : LanguageGroup} (hg : g ∈ gs)
    {region : Option Text} : region ∈ g.regions ↔ (⟨g.language, region⟩ : Locale) ∈ ls := by
  have hl : (⟨g.language, region⟩ : Locale) ∈ g.locales ↔ region ∈ g.regions := by
    simp [LanguageGroup.locales]
  rw [← hl, h.own g hg]
  simp

theorem eq_ofLanguage (h : IsPartition ls gs) {g : LanguageGroup} (hg : g ∈ gs) :
    g = ofLanguage ls g.language := by
  obtain ⟨codes, hpairwise, hregions⟩ := h.regions g hg
  obtain ⟨codes', hpairwise', hcodes', hregions'⟩ := exists_codes ls g.language
  have hcodes (code : Text) : code ∈ codes ↔ (⟨g.language, some code⟩ : Locale) ∈ ls := by
    rw [← h.mem_regions_iff hg, hregions]
    split_ifs <;> simp
  have heq : codes = codes' := by
    apply Text.eq_of_pairwise_precedes hpairwise hpairwise'
    intro code
    rw [hcodes, hcodes']
  obtain ⟨language, regions⟩ := g
  have hsame : regions = (ofLanguage ls language).regions := by
    rw [hregions', ← heq]
    exact hregions
  exact congrArg (LanguageGroup.mk language) hsame

/-- There is no other way to share out locales. -/
theorem eq_ofLocales (h : IsPartition ls gs) : gs = ofLocales ls := by
  have hlanguages : gs.map (·.language) = sorted (ls.map (·.language)) := by
    apply Text.eq_of_pairwise_precedes h.languages (pairwise_precedes_sorted _)
    intro language
    rw [h.mem_language_iff, mem_languages]
  calc gs = gs.map fun g => ofLanguage ls g.language :=
        (List.map_id gs).symm.trans (List.map_congr_left fun g hg => h.eq_ofLanguage hg)
    _ = (gs.map (·.language)).map (ofLanguage ls) := by rw [List.map_map]; rfl
    _ = ofLocales ls := by rw [hlanguages, ofLocales]

/-- What groups share out are the members of a list, in whatever order and however often. -/
theorem congr {ls' : List Locale} (h : IsPartition ls gs) (same : ∀ l, l ∈ ls' ↔ l ∈ ls) :
    IsPartition ls' gs where
  languages := h.languages
  occupied := h.occupied
  regions g hg := by
    simp only [same]
    exact h.regions g hg
  mem_iff l := (h.mem_iff l).trans (same l).symm
  nodup := h.nodup
  own g hg l := by
    rw [same]
    exact h.own g hg l

end IsPartition

theorem ofLocales_congr {ls' : List Locale} (same : ∀ l, l ∈ ls' ↔ l ∈ ls) :
    ofLocales ls' = ofLocales ls :=
  ((isPartition_ofLocales ls).congr same).eq_ofLocales.symm

theorem FirstLacking.unique {language language' : Text} {codes codes' : List Text}
    (h : FirstLacking ls language codes) (h' : FirstLacking ls language' codes') :
    language = language' ∧ codes = codes' := by
  have hlanguage : language = language' := by
    rcases h.least language' h'.lacks with heq | hprecedes
    · exact heq.symm
    · rcases h'.least language h.lacks with heq | hprecedes'
      · exact heq
      · exact absurd hprecedes hprecedes'.asymm
  subst hlanguage
  refine ⟨rfl, Text.eq_of_pairwise_precedes h.increasing h'.increasing fun code => ?_⟩
  rw [h.mem_iff, h'.mem_iff]

theorem build_error_iff {inputDir : Text} {t : Trouble} :
    (build inputDir ls).outcome = .error t ↔ ∃ language codes,
      FirstLacking ls language codes ∧ t = .failure (.missingFallback language codes inputDir) := by
  rcases build_cases inputDir ls with ⟨hnone, hok⟩ | ⟨language, codes, hfirst, herror⟩
  · rw [hok]
    simp only [reduceCtorEq, false_iff, not_exists, not_and]
    intro language codes hfirst
    exact absurd hfirst.lacks (hnone language)
  · rw [herror, Except.error.injEq]
    constructor
    · rintro rfl
      exact ⟨language, codes, hfirst, rfl⟩
    · rintro ⟨language', codes', hfirst', rfl⟩
      obtain ⟨rfl, rfl⟩ := hfirst.unique hfirst'
      rfl

/-- Grouping is a canonical partition. The groups are the one way to share out the locales, which
does not change if the locales are reordered or repeated, or if what was shared out is grouped
again. The check lets the groups pass if each has a default; otherwise it reports the first
language whose group has none, with all its regions. -/
theorem ofLocales_canonical (ls : List Locale) :
    (∀ gs, IsPartition ls gs ↔ gs = ofLocales ls) ∧
    (∀ ls', (∀ l, l ∈ ls' ↔ l ∈ ls) → ofLocales ls' = ofLocales ls) ∧
    ofLocales (locales (ofLocales ls)) = ofLocales ls ∧
    ∀ inputDir,
      (∀ gs, (build inputDir ls).outcome = .ok gs ↔
        gs = ofLocales ls ∧ ∀ g ∈ gs, none ∈ g.regions) ∧
      ∀ t, (build inputDir ls).outcome = .error t ↔ ∃ language codes,
        FirstLacking ls language codes ∧
          t = .failure (.missingFallback language codes inputDir) := by
  have hpartition := isPartition_ofLocales ls
  have hdefaults : (∀ g ∈ ofLocales ls, none ∈ g.regions) ↔
      ∀ l ∈ ls, Locale.default l.language ∈ ls := by
    constructor
    · intro h l hl
      obtain ⟨g, hg, hlanguage⟩ := List.mem_map.mp (hpartition.mem_language_iff.mpr ⟨l, hl, rfl⟩)
      rw [← hlanguage]
      exact (hpartition.mem_regions_iff hg).mp (h g hg)
    · intro h g hg
      obtain ⟨l, hl, hlanguage⟩ := hpartition.mem_language_iff.mp (List.mem_map_of_mem hg)
      rw [hpartition.mem_regions_iff hg, ← hlanguage]
      exact h l hl
  refine ⟨?_, fun ls' same => ofLocales_congr same,
    ofLocales_congr fun _ => mem_locales_ofLocales, fun inputDir => ⟨?_, ?_⟩⟩
  · intro gs
    constructor
    · exact IsPartition.eq_ofLocales
    · rintro rfl
      exact hpartition
  · intro gs
    rw [build_ok_iff]
    constructor
    · rintro ⟨rfl, h⟩
      exact ⟨rfl, hdefaults.mpr h⟩
    · rintro ⟨rfl, h⟩
      exact ⟨rfl, hdefaults.mp h⟩
  · exact fun t => build_error_iff

/-- Locales in no order and with repetitions; French has no default. -/
def unordered : List Locale :=
  [⟨"fr", some "CA"⟩, ⟨"de", none⟩, ⟨"fr", some "BE"⟩, ⟨"de", some "AT"⟩, ⟨"fr", some "CA"⟩]

theorem firstLacking_unordered : FirstLacking unordered "fr" ["BE", "CA"] := by
  constructor
  · exact ⟨⟨_, List.mem_cons_self .., rfl⟩, by decide⟩
  · rintro other ⟨⟨l, hl, rfl⟩, hdefault⟩
    revert l
    decide
  · decide
  · intro code
    have hother : ("fr" : Text) ≠ "de" := by decide
    simp only [unordered, List.mem_cons, List.not_mem_nil, or_false, Locale.mk.injEq, hother,
      false_and, false_or, true_and, Option.some.injEq]
    tauto

theorem ofLocales_canonical_unordered :
    IsPartition unordered
      [⟨"de", [none, some "AT"]⟩, ⟨"fr", [some "BE", some "CA"]⟩] ∧
    ofLocales unordered.reverse = ofLocales unordered ∧
    (build "i18n" unordered).outcome =
      .error (.failure (.missingFallback "fr" ["BE", "CA"] "i18n")) := by
  obtain ⟨hpartition, hcongr, _, hbuild⟩ := ofLocales_canonical unordered
  refine ⟨(hpartition _).mpr (by cbv), hcongr _ fun l => List.mem_reverse,
    ((hbuild "i18n").2 _).mpr ⟨_, _, firstLacking_unordered, rfl⟩⟩

end Phrasebook.Groups
