import Mathlib
import Phrasebook.Proofs.ClassNames
import Phrasebook.Proofs.Emitted.LookupTable
import Phrasebook.Proofs.Locale.Partition

/-! Requests to the lookup table of checked groups. A request has the target of its own locale if
that is given, or else the target of its language's default if the language is given at all. -/

namespace Phrasebook.LookupTable

variable {p : ClassPrefix} {gs : List LanguageGroup} {ls : List Locale} {inputDir : Text}

theorem mem_supportedLocales {language : Text} {region : Option Text} :
    (language, region) ∈ (ofGroups p gs).supportedLocales ↔
      ⟨language, region⟩ ∈ Groups.locales gs := by
  simp only [supportedLocales, ofGroups, List.mem_map, Prod.mk.injEq]
  constructor
  · rintro ⟨⟨language', region'⟩, hl, rfl, rfl⟩
    exact hl
  · intro hl
    exact ⟨_, hl, rfl, rfl⟩

theorem nodup_supportedLocales (h : (Groups.locales gs).Nodup) :
    (ofGroups p gs).supportedLocales.Nodup := by
  apply List.Nodup.map _ h
  rintro ⟨language, region⟩ ⟨language', region'⟩ heq
  obtain ⟨rfl, rfl⟩ := Prod.mk.inj heq
  rfl

/-! ### Checked groups -/

section Checked

variable (h : (Groups.build inputDir ls).outcome = .ok gs) {language : Text} {region : Option Text}
include h

theorem mem_locales_of_build {l : Locale} : l ∈ Groups.locales gs ↔ l ∈ ls := by
  obtain ⟨rfl, _⟩ := Groups.build_ok_iff.mp h
  exact Groups.mem_locales_ofLocales

/-- In checked groups a language that is given has its default. -/
theorem default_mem_iff : Locale.default language ∈ ls ↔ ∃ l ∈ ls, l.language = language := by
  constructor
  · exact fun hl => ⟨_, hl, rfl⟩
  · rintro ⟨l, hl, rfl⟩
    exact (Groups.build_ok_iff.mp h).2 l hl

theorem resolve_listed (hl : ⟨language, region⟩ ∈ ls) :
    (ofGroups p gs).resolve language region =
      .ok (LookupTarget.ofLocale p ⟨language, region⟩) := by
  rw [resolve_ofGroups, if_pos ((mem_locales_of_build h).mpr hl)]

theorem resolve_unlisted_region (hl : ⟨language, region⟩ ∉ ls)
    (hlanguage : ∃ l ∈ ls, l.language = language) :
    (ofGroups p gs).resolve language region =
      .ok (LookupTarget.ofLocale p (.default language)) := by
  have hdefault : Locale.default language ∈ ls := (default_mem_iff h).mpr hlanguage
  rw [resolve_ofGroups, if_neg fun hmem => hl ((mem_locales_of_build h).mp hmem),
    if_pos ((mem_locales_of_build h).mpr hdefault)]

theorem resolve_unlisted_language (hlanguage : ∀ l ∈ ls, l.language ≠ language) :
    (ofGroups p gs).resolve language region =
      .error (.unsupportedLocale (Locale.canonical ⟨language, region⟩)) := by
  have hnone {l : Locale} (hl : l.language = language) : l ∉ Groups.locales gs :=
    fun hmem => hlanguage l ((mem_locales_of_build h).mp hmem) hl
  rw [resolve_ofGroups, if_neg (hnone rfl), if_neg (hnone rfl)]

end Checked

/-- Requests to the table of checked locales are answered in two phases: by the class of the very
locale if it is given, or else by that of its language's default if the language is given, and
otherwise not at all. The table supports each of the locales once, whatever their order. -/
theorem resolve_two_phase (p : ClassPrefix) (h : (Groups.build inputDir ls).outcome = .ok gs) :
    (∀ language region,
      (⟨language, region⟩ ∈ ls → (ofGroups p gs).resolve language region =
        .ok ⟨⟨language, region⟩, p.classOf ⟨language, region⟩, p.moduleOf language⟩) ∧
      (⟨language, region⟩ ∉ ls → (∃ l ∈ ls, l.language = language) →
        (ofGroups p gs).resolve language region =
          .ok ⟨⟨language, none⟩, p.classOf ⟨language, none⟩, p.moduleOf language⟩) ∧
      ((∀ l ∈ ls, l.language ≠ language) → (ofGroups p gs).resolve language region =
        .error (.unsupportedLocale
          (match region with
          | none => language
          | some code => language ++ "_" ++ code)))) ∧
    ((ofGroups p gs).supportedLocales.Nodup ∧ ∀ language region,
      (language, region) ∈ (ofGroups p gs).supportedLocales ↔ ⟨language, region⟩ ∈ ls) ∧
    ∀ inputDir' ls', (∀ l, l ∈ ls' ↔ l ∈ ls) →
      ∃ gs', (Groups.build inputDir' ls').outcome = .ok gs' ∧
        ofGroups p gs' = ofGroups p gs := by
  refine ⟨fun language region => ⟨resolve_listed h, resolve_unlisted_region h, ?_⟩, ⟨?_, ?_⟩, ?_⟩
  · intro hlanguage
    rw [resolve_unlisted_language h hlanguage]
    cases region with
    | none => rfl
    | some code =>
      have hcode : language ++ "_" ++ code = Locale.canonical ⟨language, some code⟩ :=
        List.append_assoc language "_" code
      simp only [hcode]
  · obtain ⟨rfl, _⟩ := Groups.build_ok_iff.mp h
    exact nodup_supportedLocales Groups.nodup_locales_ofLocales
  · intro language region
    rw [mem_supportedLocales, mem_locales_of_build h]
  · intro inputDir' ls' same
    obtain ⟨rfl, hdefaults⟩ := Groups.build_ok_iff.mp h
    refine ⟨_, Groups.build_ok_iff.mpr ⟨rfl, ?_⟩, by rw [Groups.ofLocales_congr same]⟩
    intro l hl
    exact (same _).mpr (hdefaults l ((same l).mp hl))

/-- Locales in no order, each language with its default. -/
def alpine : List Locale :=
  [⟨"de", some "AT"⟩, ⟨"it", none⟩, ⟨"de", none⟩]

theorem build_alpine : (Groups.build "phrases" alpine).outcome = .ok (Groups.ofLocales alpine) :=
  Groups.build_ok_iff.mpr ⟨rfl, by decide⟩

theorem resolve_two_phase_alpine :
    (Groups.build "phrases" alpine).outcome = .ok (Groups.ofLocales alpine) ∧
    (ofGroups .usual (Groups.ofLocales alpine)).resolve "de" (some "AT") =
      .ok ⟨⟨"de", some "AT"⟩, "L10nDeAt", "l10n_de"⟩ ∧
    (ofGroups .usual (Groups.ofLocales alpine)).resolve "it" (some "CH") =
      .ok ⟨⟨"it", none⟩, "L10nIt", "l10n_it"⟩ ∧
    (ofGroups .usual (Groups.ofLocales alpine)).resolve "rm" (some "CH") =
      .error (.unsupportedLocale "rm_CH") ∧
    ∃ gs', (Groups.build "phrases" alpine.reverse).outcome = .ok gs' ∧
      ofGroups .usual gs' = ofGroups .usual (Groups.ofLocales alpine) := by
  obtain ⟨hresolve, _, horder⟩ := resolve_two_phase .usual build_alpine
  refine ⟨build_alpine, ?_, ?_, (hresolve "rm" (some "CH")).2.2 (by decide),
    horder "phrases" alpine.reverse fun l => List.mem_reverse⟩
  · exact (hresolve "de" (some "AT")).1 (by decide)
  · exact (hresolve "it" (some "CH")).2.1 (by decide) (by decide)

end Phrasebook.LookupTable
