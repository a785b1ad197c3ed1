import Mathlib
import Phrasebook.Proofs.Emitted.Resolution
import Phrasebook.Proofs.Locale.Spelling

/-! Requests by locale code. However a locale is spelled, its codes ask for that locale. Where every
language has its default, a code is supported exactly if it is answered. -/

namespace Phrasebook

namespace Locale

variable {l : Locale}

/-- At its first separator the canonical form comes apart into the language and the region. -/
theorem before_canonical (h : separator ∉ l.language) :
    l.canonical.before separator = l.language := by
  obtain ⟨language, region⟩ := l
  cases region with
  | none => exact Text.before_of_notMem h
  | some region => exact Text.before_append h region

theorem after_canonical (h : separator ∉ l.language) :
    l.canonical.after separator = l.region.getD [] := by
  obtain ⟨language, region⟩ := l
  cases region with
  | none => exact Text.after_of_notMem h
  | some region => exact Text.after_append h region

end Locale

namespace Groups

variable {gs : List LanguageGroup} {inputDir : Text}

theorem requireDefaults_eq_ok_iff :
    requireDefaults inputDir gs = .ok () ↔ ∀ g ∈ gs, none ∈ g.regions := by
  unfold requireDefaults
  split
  next g hg =>
    have hlacks : none ∉ g.regions := by
      simpa [LanguageGroup.hasDefault] using List.find?_some hg
    simp only [reduceCtorEq, false_iff]
    exact fun h => hlacks (h g (List.mem_of_find?_eq_some hg))
  next hnone =>
    simp only [true_iff]
    intro g hg
    simpa [LanguageGroup.hasDefault] using List.find?_eq_none.mp hnone g hg

/-- In groups that passed the check every language has its default. -/
theorem default_mem_locales_iff (h : requireDefaults inputDir gs = .ok ()) {language : Text} :
    Locale.default language ∈ locales gs ↔ ∃ g ∈ gs, g.language = language := by
  constructor
  · intro hl
    obtain ⟨g, hg, hlg⟩ := List.mem_flatMap.mp hl
    obtain ⟨region, _, heq⟩ := List.mem_map.mp hlg
    exact ⟨g, hg, congrArg Locale.language heq⟩
  · rintro ⟨g, hg, rfl⟩
    have hnone : none ∈ g.regions := requireDefaults_eq_ok_iff.mp h g hg
    exact List.mem_flatMap.mpr ⟨g, hg, List.mem_map_of_mem hnone⟩

theorem default_mem_locales (h : requireDefaults inputDir gs = .ok ()) {l : Locale}
    (hl : l ∈ locales gs) : Locale.default l.language ∈ locales gs := by
  obtain ⟨g, hg, hlg⟩ := List.mem_flatMap.mp hl
  obtain ⟨region, _, rfl⟩ := List.mem_map.mp hlg
  exact (default_mem_locales_iff h).mpr ⟨g, hg, rfl⟩

end Groups

namespace LookupTable

variable {p : ClassPrefix} {gs : List LanguageGroup} {inputDir : Text}

/-- The code of a request in normal spelling, without its encoding. -/
def normalCode (request : Text) : Text :=
  Locale.normalize (request.before '.')

/-- An empty region is read as none. -/
def requestedRegion (code : Text) : Option Text :=
  if code = [] then none else some code

theorem mem_requestedRegion {code region : Text} :
    region ∈ requestedRegion code ↔ region ≠ [] ∧ region = code := by
  unfold requestedRegion
  split_ifs with h <;> grind

theorem resolveCode_eq (t : LookupTable) (code : Text) : t.resolveCode code =
    t.resolve ((normalCode code).before Locale.separator)
      (requestedRegion ((normalCode code).after Locale.separator)) :=
  rfl

theorem supports_eq (t : LookupTable) (code : Text) : t.supports code =
    (t.byLanguage.lookup ((normalCode code).before Locale.separator)).isSome :=
  rfl

/-! ### Codes that denote a locale -/

section Spelled

variable {r : Reference} {code suffix : Text} {l : Locale}

/-- What may follow the code in a request: nothing, or a dot and the name of an encoding. -/
def IsEncoding (suffix : Text) : Prop :=
  suffix = [] ∨ ∃ name : Text, suffix = ('.' : CodePoint) :: name

theorem before_encoding (hdot : ('.' : CodePoint) ∉ code) (hsuffix : IsEncoding suffix) :
    (code ++ suffix).before '.' = code := by
  rcases hsuffix with rfl | ⟨name, rfl⟩
  · rw [List.append_nil]
    exact Text.before_of_notMem hdot
  · exact Text.before_append hdot name

theorem normalCode_of_parse (hdot : ('.' : CodePoint) ∉ code) (hcode : Locale.parse r code = .ok l)
    (hsuffix : IsEncoding suffix) : normalCode (code ++ suffix) = l.canonical := by
  rw [normalCode, before_encoding hdot hsuffix, Locale.normalize_of_parse hcode]

theorem requestedRegion_eq_region (proper : r.hasRegion [] = false)
    (hcode : Locale.parse r code = .ok l) : requestedRegion (l.region.getD []) = l.region := by
  cases hregion : l.region with
  | none => rfl
  | some region =>
    apply if_neg
    rintro rfl
    exact absurd (Locale.hasRegion_of_parse hcode hregion) (by simp [proper])

/-- A code asks for the locale that it denotes. -/
theorem resolveCode_of_parse (t : LookupTable) (proper : r.hasRegion [] = false)
    (hdot : ('.' : CodePoint) ∉ code) (hcode : Locale.parse r code = .ok l)
    (hsuffix : IsEncoding suffix) :
    t.resolveCode (code ++ suffix) = t.resolve l.language l.region := by
  have hlanguage : Locale.separator ∉ l.language := Locale.separator_notMem_language hcode
  rw [resolveCode_eq, normalCode_of_parse hdot hcode hsuffix, Locale.before_canonical hlanguage,
    Locale.after_canonical hlanguage, requestedRegion_eq_region proper hcode]

/-- Every spelling of a locale reaches its class. A code that denotes a locale, with an encoding
behind it or without, is answered by the class of the locale if the locale is given, or else by that
of its language's default if the language is given; otherwise the locale is reported as unsupported,
in its canonical form. -/
theorem resolveCode_spelled (p : ClassPrefix) {ls : List Locale}
    (h : (Groups.build inputDir ls).outcome = .ok gs) (proper : r.hasRegion [] = false)
    (hdot : ('.' : CodePoint) ∉ code) (hcode : Locale.parse r code = .ok l)
    (hsuffix : IsEncoding suffix) :
    (l ∈ ls → (ofGroups p gs).resolveCode (code ++ suffix) =
      .ok ⟨l, p.classOf l, p.moduleOf l.language⟩) ∧
    (l ∉ ls → (∃ other ∈ ls, other.language = l.language) →
      (ofGroups p gs).resolveCode (code ++ suffix) =
        .ok ⟨.default l.language, p.classOf (.default l.language), p.moduleOf l.language⟩) ∧
    ((∀ other ∈ ls, other.language ≠ l.language) →
      ∃ f, (ofGroups p gs).resolveCode (code ++ suffix) = .error f ∧
        f.kind = .unsupportedLocale ∧ f.diagnostic.localeCode = some l.canonical) := by
  rw [resolveCode_of_parse _ proper hdot hcode hsuffix]
  refine ⟨resolve_listed h, resolve_unlisted_region h, ?_⟩
  intro hlanguage
  exact ⟨_, resolve_unlisted_language h hlanguage, rfl, rfl⟩

/-- Tables with a language that ends in a final sigma and a region that lengthens in uppercase. -/
def roadTables : Reference where
  languages := [("οδος", "Road"), ("fr", "French")]
  regions := [("SS", "Double"), ("CA", "Canada")]

def roads : List Locale :=
  [⟨"οδος", none⟩, ⟨"οδος", some "SS"⟩]

theorem resolveCode_spelled_roads :
    (Groups.build "i18n" roads).outcome = .ok (Groups.ofLocales roads) ∧
    roadTables.hasRegion [] = false ∧
    (ofGroups .usual (Groups.ofLocales roads)).resolveCode " ΟΔΟΣ-ß\t.ISO-8859-7" =
      .ok ⟨⟨"οδος", some "SS"⟩, "L10nΟδοςSs", "l10n_οδος"⟩ ∧
    (ofGroups .usual (Groups.ofLocales roads)).resolveCode "Οδος_ca" =
      .ok ⟨⟨"οδος", none⟩, "L10nΟδος", "l10n_οδος"⟩ ∧
    ∃ f, (ofGroups .usual (Groups.ofLocales roads)).resolveCode "FR-ca.UTF-8" = .error f ∧
      f.kind = .unsupportedLocale ∧ f.diagnostic.localeCode = some "fr_CA" := by
  have hbuild : (Groups.build "i18n" roads).outcome = .ok (Groups.ofLocales roads) :=
    Groups.build_ok_iff.mpr ⟨rfl, by decide⟩
  have proper : roadTables.hasRegion [] = false := by decide
  have hlisted : Locale.parse roadTables " ΟΔΟΣ-ß\t" = .ok ⟨"οδος", some "SS"⟩ := by rfl
  have hregion : Locale.parse roadTables "Οδος_ca" = .ok ⟨"οδος", some "CA"⟩ := by rfl
  have hlanguage : Locale.parse roadTables "FR-ca" = .ok ⟨"fr", some "CA"⟩ := by rfl
  have htarget : LookupTarget.ofLocale .usual ⟨"οδος", some "SS"⟩ =
      ⟨⟨"οδος", some "SS"⟩, "L10nΟδοςSs", "l10n_οδος"⟩ := by decide +kernel
  have hdefault : LookupTarget.ofLocale .usual ⟨"οδος", none⟩ =
      ⟨⟨"οδος", none⟩, "L10nΟδος", "l10n_οδος"⟩ := by decide +kernel
  refine ⟨hbuild, proper, ?_, ?_, ?_⟩
  · rw [← htarget]
    exact (resolveCode_spelled .usual hbuild proper (by decide) hlisted
      (.inr ⟨"ISO-8859-7", rfl⟩)).1 (by decide)
  · rw [← hdefault]
    exact (resolveCode_spelled .usual hbuild proper (by decide) hregion (.inl rfl)).2.1
      (by decide) (by decide)
  · exact (resolveCode_spelled .usual hbuild proper (by decide) hlanguage
      (.inr ⟨"UTF-8", rfl⟩)).2.2 (by decide)

end Spelled

/-! ### Supported codes -/

variable {language : Text} {region : Option Text}

theorem supports_iff {code : Text} : (ofGroups p gs).supports code = true ↔
    Locale.default ((normalCode code).before Locale.separator) ∈ Groups.locales gs := by
  rw [supports_eq, lookup_byLanguage]
  split_ifs with h <;> simp [h]

/-- Something answers a request if its own locale or the default of its language is given. -/
theorem exists_resolve_iff : (∃ target, (ofGroups p gs).resolve language region = .ok target) ↔
    ⟨language, region⟩ ∈ Groups.locales gs ∨ Locale.default language ∈ Groups.locales gs := by
  rw [resolve_ofGroups]
  split_ifs with hown hdefault
  · simp [hown]
  · simp [hdefault]
  · simp [hown, hdefault]

theorem locale_of_resolve {target : LookupTarget}
    (h : (ofGroups p gs).resolve language region = .ok target) :
    target.locale = ⟨language, region⟩ ∨ target.locale = .default language := by
  rw [resolve_ofGroups] at h
  split_ifs at h
  · obtain rfl := Except.ok.inj h
    exact .inl rfl
  · obtain rfl := Except.ok.inj h
    exact .inr rfl

/-- Where every language has its default, a code is supported exactly if something answers it. That
is so if its language has a group, and the answer is a locale of this language, in the requested
region or in none. -/
theorem supports_iff_answered (p : ClassPrefix) (h : Groups.requireDefaults inputDir gs = .ok ())
    (code : Text) :
    ((ofGroups p gs).supports code = true ↔
      ∃ target, (ofGroups p gs).resolveCode code = .ok target) ∧
    ((ofGroups p gs).supports code = true ↔
      ∃ g ∈ gs, g.language = (normalCode code).before Locale.separator) ∧
    ∀ target, (ofGroups p gs).resolveCode code = .ok target →
      target.locale.language = (normalCode code).before Locale.separator ∧
      ∀ region ∈ target.locale.region,
        region ≠ [] ∧ region = (normalCode code).after Locale.separator := by
  rw [supports_iff]
  refine ⟨?_, Groups.default_mem_locales_iff h, ?_⟩
  · rw [resolveCode_eq, exists_resolve_iff]
    constructor
    · exact .inr
    · rintro (hown | hdefault)
      · exact Groups.default_mem_locales h hown
      · exact hdefault
  · intro target htarget
    rw [resolveCode_eq] at htarget
    rcases locale_of_resolve htarget with hown | hdefault
    · rw [hown]
      exact ⟨rfl, fun region hregion => mem_requestedRegion.mp hregion⟩
    · rw [hdefault]
      exact ⟨rfl, by simp [Locale.default]⟩

def alpineGroups : List LanguageGroup :=
  [⟨"de", [none, some "AT"]⟩, ⟨"it", [none]⟩]

theorem supports_iff_answered_alpine :
    Groups.requireDefaults "i18n" alpineGroups = .ok () ∧
    (∃ target, (ofGroups .usual alpineGroups).resolveCode " DE_at.UTF-8" = .ok target ∧
      target.locale.language = "de" ∧ ∀ region ∈ target.locale.region, region = "AT") ∧
    (ofGroups .usual alpineGroups).supports "rm-AT" = false ∧
    ¬∃ target, (ofGroups .usual alpineGroups).resolveCode "rm-AT" = .ok target := by
  have hchecked : Groups.requireDefaults "i18n" alpineGroups = .ok () :=
    Groups.requireDefaults_eq_ok_iff.mpr (by decide)
  have hunsupported : (ofGroups .usual alpineGroups).supports "rm-AT" = false := by decide
  obtain ⟨hgerman, _, hlocale⟩ := supports_iff_answered .usual hchecked " DE_at.UTF-8"
  obtain ⟨hromansh, _⟩ := supports_iff_answered .usual hchecked "rm-AT"
  refine ⟨hchecked, ?_, hunsupported, ?_⟩
  · obtain ⟨target, htarget⟩ := hgerman.mp (by decide)
    obtain ⟨hlanguage, hregion⟩ := hlocale target htarget
    exact ⟨target, htarget, hlanguage, fun region hr => (hregion region hr).2⟩
  · rw [← hromansh, hunsupported]
    exact Bool.false_ne_true

/-- Without the check, a region may be answered whose language is not supported. -/
example : (ofGroups .usual [⟨"fr", [some "CA"]⟩]).supports "fr-CA" = false ∧
    (ofGroups .usual [⟨"fr", [some "CA"]⟩]).resolveCode "fr-CA" =
      .ok ⟨⟨"fr", some "CA"⟩, "L10nFrCa", "l10n_fr"⟩ := by
  decide

end LookupTable

end Phrasebook
