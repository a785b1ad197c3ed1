import Mathlib
import Phrasebook.Failure.Report
import Phrasebook.Locale.Groups
import Phrasebook.Proofs.Outcome
import Phrasebook.Proofs.Text.Order

/-! Groups hold each given locale once, in order: group by group they are the given locales sorted
and without repetitions. -/

namespace Phrasebook

/-- Erasing repetitions leaves none. -/
theorem nodup_eraseDups (ts : List Text) : ts.eraseDups.Nodup := by
  generalize hn : ts.length = n
  induction n using Nat.strong_induction_on generalizing ts with
  | _ n ih =>
    cases ts with
    | nil => simp
    | cons t ts =>
      rw [List.eraseDups_cons, List.nodup_cons]
      refine ⟨?_, ih _ ?_ _ rfl⟩
      · rw [List.mem_eraseDups, List.mem_filter]
        simp
      · have := List.length_filter_le (fun u => !u == t) ts
        simp only [List.length_cons] at hn
        omega

namespace Groups

@[simp] theorem mem_sorted {t : Text} {ts : List Text} : t ∈ sorted ts ↔ t ∈ ts := by
  rw [sorted, List.mem_mergeSort, List.mem_eraseDups]

theorem nodup_sorted (ts : List Text) : (sorted ts).Nodup :=
  (List.mergeSort_perm _ _).nodup_iff.mpr (nodup_eraseDups ts)

theorem pairwise_precedes_sorted (ts : List Text) : (sorted ts).Pairwise Text.Precedes :=
  Text.pairwise_precedes (Text.pairwise_mergeSort _) (nodup_sorted ts)

variable {ls : List Locale} {language : Text}

/-- The group of a language: the default comes first where it is given, and then the regions,
strictly in order. -/
theorem exists_codes (ls : List Locale) (language : Text) :
    ∃ codes : List Text, codes.Pairwise Text.Precedes ∧
      (∀ code, code ∈ codes ↔ (⟨language, some code⟩ : Locale) ∈ ls) ∧
      (ofLanguage ls language).regions =
        if Locale.default language ∈ ls then none :: codes.map some else codes.map some := by
  have hdefault : (ls.filter fun l => l.language == language).any (·.isDefault) = true ↔
      Locale.default language ∈ ls := by
    rw [List.any_eq_true]
    constructor
    · rintro ⟨⟨language', region'⟩, hl, hd⟩
      rw [List.mem_filter, beq_iff_eq] at hl
      obtain ⟨hl, rfl⟩ := hl
      obtain rfl : region' = none := Option.isNone_iff_eq_none.mp hd
      exact hl
    · intro h
      exact ⟨_, List.mem_filter.mpr ⟨h, beq_self_eq_true language⟩, rfl⟩
  refine ⟨sorted ((ls.filter fun l => l.language == language).filterMap (·.region)),
    pairwise_precedes_sorted _, ?_, by simp only [ofLanguage, hdefault]⟩
  intro code
  rw [mem_sorted, List.mem_filterMap]
  constructor
  · rintro ⟨⟨language', region'⟩, hl, rfl⟩
    rw [List.mem_filter, beq_iff_eq] at hl
    obtain ⟨hl, rfl⟩ := hl
    exact hl
  · intro h
    exact ⟨_, List.mem_filter.mpr ⟨h, beq_self_eq_true language⟩, rfl⟩

theorem mem_regions {region : Option Text} :
    region ∈ (ofLanguage ls language).regions ↔ (⟨language, region⟩ : Locale) ∈ ls := by
  obtain ⟨codes, _, hcodes, hregions⟩ := exists_codes ls language
  rw [hregions]
  cases region with
  | none =>
    have hdefault : (⟨language, none⟩ : Locale) = .default language := rfl
    rw [hdefault]
    split_ifs with h <;> simp [h]
  | some code =>
    rw [← hcodes]
    split_ifs <;> simp

theorem nodup_regions : (ofLanguage ls language).regions.Nodup := by
  obtain ⟨codes, hpairwise, _, hregions⟩ := exists_codes ls language
  have hcodes : codes.Nodup := hpairwise.imp And.right
  have hnodup : (codes.map some).Nodup := hcodes.map (Option.some_injective _)
  rw [hregions]
  split_ifs
  · rw [List.nodup_cons]
    exact ⟨by simp, hnodup⟩
  · exact hnodup

theorem pairwise_regions : (ofLanguage ls language).regions.Pairwise
    fun a b => Text.le (a.getD []) (b.getD []) = true := by
  obtain ⟨codes, hpairwise, _, hregions⟩ := exists_codes ls language
  have hcodes : (codes.map some).Pairwise
      fun a b => Text.le (a.getD []) (b.getD []) = true := by
    rw [List.pairwise_map]
    exact hpairwise.imp And.left
  rw [hregions]
  split_ifs
  · rw [List.pairwise_cons]
    exact ⟨fun _ _ => rfl, hcodes⟩
  · exact hcodes

theorem map_language_ofLocales (ls : List Locale) :
    (ofLocales ls).map (·.language) = sorted (ls.map (·.language)) := by
  rw [ofLocales, List.map_map]
  exact (List.map_congr_left fun _ _ => rfl).trans (List.map_id _)

theorem mem_locales_ofLanguage {l : Locale} :
    l ∈ (ofLanguage ls language).locales ↔ l ∈ ls ∧ l.language = language := by
  unfold LanguageGroup.locales
  rw [List.mem_map]
  constructor
  · rintro ⟨region, hr, rfl⟩
    exact ⟨mem_regions.mp hr, rfl⟩
  · rintro ⟨hl, rfl⟩
    exact ⟨l.region, mem_regions.mpr hl, rfl⟩

/-- Grouping neither loses nor brings in a locale. -/
theorem mem_locales_ofLocales {l : Locale} : l ∈ locales (ofLocales ls) ↔ l ∈ ls := by
  simp only [locales, ofLocales, List.mem_flatMap, List.mem_map, mem_sorted]
  constructor
  · rintro ⟨_, ⟨language, _, rfl⟩, hl⟩
    exact (mem_locales_ofLanguage.mp hl).1
  · intro hl
    exact ⟨_, ⟨l.language, ⟨l, hl, rfl⟩, rfl⟩, mem_locales_ofLanguage.mpr ⟨hl, rfl⟩⟩

theorem nodup_locales_ofLocales : (locales (ofLocales ls)).Nodup := by
  rw [locales, ofLocales, List.flatMap_map, List.nodup_flatMap]
  constructor
  · intro language _
    have hregions : (ofLanguage ls language).regions.Nodup := nodup_regions
    apply hregions.map
    intro a b hab
    exact congrArg Locale.region hab
  · apply (nodup_sorted _).imp
    intro x y hxy
    rw [Function.onFun, List.disjoint_left]
    intro l hx hy
    exact hxy ((mem_locales_ofLanguage.mp hx).2.symm.trans (mem_locales_ofLanguage.mp hy).2)

theorem pairwise_locales_ofLocales :
    (locales (ofLocales ls)).Pairwise fun a b => Locale.le a b = true := by
  rw [locales, ofLocales, List.flatMap_map, List.pairwise_flatMap]
  constructor
  · intro language _
    unfold LanguageGroup.locales
    rw [List.pairwise_map]
    apply pairwise_regions.imp
    intro a b hab
    rwa [Locale.le_mk]
  · apply (pairwise_precedes_sorted _).imp
    rintro x y ⟨hle, hne⟩ a ha b hb
    obtain ⟨_, rfl⟩ := mem_locales_ofLanguage.mp ha
    obtain ⟨_, rfl⟩ := mem_locales_ofLanguage.mp hb
    rwa [Locale.le_of_language_ne hne]

/-- Sorted locales without repetitions are the locales of their groups. -/
theorem locales_ofLocales_eq (hsorted : ls.Pairwise fun a b => Locale.le a b = true)
    (hnodup : ls.Nodup) (proper : ∀ l ∈ ls, l.region ≠ some []) :
    locales (ofLocales ls) = ls :=
  (Locale.eq_of_sorted hsorted pairwise_locales_ofLocales hnodup nodup_locales_ofLocales proper
    fun _ => mem_locales_ofLocales.symm).symm

/-! ### What groups depend on -/

theorem sorted_congr {ts ts' : List Text} (h : ∀ t, t ∈ ts' ↔ t ∈ ts) :
    sorted ts' = sorted ts := by
  apply Text.eq_of_pairwise_precedes (pairwise_precedes_sorted ts') (pairwise_precedes_sorted ts)
  simpa using h

/-- The group of a language depends on the locales of that language. -/
theorem ofLanguage_congr {ls' : List Locale}
    (h : ∀ region, (⟨language, region⟩ : Locale) ∈ ls' ↔ ⟨language, region⟩ ∈ ls) :
    ofLanguage ls' language = ofLanguage ls language := by
  obtain ⟨codes, hpairwise, hcodes, hregions⟩ := exists_codes ls language
  obtain ⟨codes', hpairwise', hcodes', hregions'⟩ := exists_codes ls' language
  have heq : codes' = codes := by
    apply Text.eq_of_pairwise_precedes hpairwise' hpairwise
    intro code
    rw [hcodes, hcodes', h]
  have hdefault : Locale.default language ∈ ls' ↔ Locale.default language ∈ ls := h none
  have hsame : (ofLanguage ls' language).regions = (ofLanguage ls language).regions := by
    simp only [hregions, hregions', heq, hdefault]
  exact congrArg (LanguageGroup.mk language) hsame

/-! ### Grouping with a check -/

@[simp] theorem outcome_report (gs : List LanguageGroup) : (report gs).outcome = .ok () := by
  induction gs with
  | nil => rfl
  | cons g gs ih =>
    simp only [report, Traced.outcome_bind, Traced.outcome_note, ih]
    rfl

theorem hasDefault_ofLanguage :
    (ofLanguage ls language).hasDefault = true ↔ Locale.default language ∈ ls := by
  rw [LanguageGroup.hasDefault, List.contains_iff_mem]
  exact mem_regions

/-- A language that has locales, but not its default. -/
def LacksDefault (ls : List Locale) (language : Text) : Prop :=
  (∃ l ∈ ls, l.language = language) ∧ Locale.default language ∉ ls

/-- The first language that lacks its default, with all its regions in order. -/
structure FirstLacking (ls : List Locale) (language : Text) (codes : List Text) : Prop where
  lacks : LacksDefault ls language
  least : ∀ other, LacksDefault ls other → other = language ∨ Text.Precedes language other
  increasing : codes.Pairwise Text.Precedes
  mem_iff : ∀ code, code ∈ codes ↔ (⟨language, some code⟩ : Locale) ∈ ls

theorem mem_languages : language ∈ sorted (ls.map (·.language)) ↔
    ∃ l ∈ ls, l.language = language := by
  rw [mem_sorted, List.mem_map]

theorem variants_of_not_mem (h : Locale.default language ∉ ls) :
    (ofLanguage ls language).variants.Pairwise Text.Precedes ∧
      ∀ code, code ∈ (ofLanguage ls language).variants ↔
        (⟨language, some code⟩ : Locale) ∈ ls := by
  obtain ⟨codes, hpairwise, hcodes, hregions⟩ := exists_codes ls language
  have hvariants : (ofLanguage ls language).variants = codes := by
    rw [LanguageGroup.variants, hregions, if_neg h, List.filterMap_map]
    exact List.filterMap_some
  rw [hvariants]
  exact ⟨hpairwise, hcodes⟩

/-- The check passes when every language has its default, and otherwise reports the first that
does not. -/
theorem requireDefaults_cases (inputDir : Text) (ls : List Locale) :
    ((∀ language, ¬LacksDefault ls language) ∧
      requireDefaults inputDir (ofLocales ls) = .ok ()) ∨
    ∃ language codes, FirstLacking ls language codes ∧
      requireDefaults inputDir (ofLocales ls) =
        .error (.missingFallback language codes inputDir) := by
  have hlacks (language : Text) : (!(ofLanguage ls language).hasDefault) = true ↔
      Locale.default language ∉ ls := by
    rw [Bool.not_eq_true', ← hasDefault_ofLanguage, Bool.not_eq_true]
  unfold requireDefaults ofLocales
  rw [List.find?_map]
  cases hfind : (sorted (ls.map (·.language))).find?
      ((fun g => !g.hasDefault) ∘ ofLanguage ls) with
  | none =>
    refine .inl ⟨?_, rfl⟩
    rintro language ⟨hlanguage, hdefault⟩
    exact List.find?_eq_none.mp hfind language (mem_languages.mpr hlanguage)
      ((hlacks language).mpr hdefault)
  | some language =>
    have hfirst := find?_eq_some_iff_isFirst.mp hfind
    have hdefault : Locale.default language ∉ ls := (hlacks language).mp hfirst.holds
    obtain ⟨hpairwise, hcodes⟩ := variants_of_not_mem hdefault
    refine .inr ⟨language, (ofLanguage ls language).variants, ?_, rfl⟩
    refine ⟨⟨mem_languages.mp hfirst.mem, hdefault⟩, ?_, hpairwise, hcodes⟩
    intro other hother
    exact hfirst.least (pairwise_precedes_sorted _) other (mem_languages.mpr hother.1)
      ((hlacks other).mpr hother.2)

theorem build_cases (inputDir : Text) (ls : List Locale) :
    ((∀ language, ¬LacksDefault ls language) ∧
      (build inputDir ls).outcome = .ok (ofLocales ls)) ∨
    ∃ language codes, FirstLacking ls language codes ∧
      (build inputDir ls).outcome =
        .error (.failure (.missingFallback language codes inputDir)) := by
  unfold build
  simp only [Traced.outcome_bind, outcome_report]
  rcases requireDefaults_cases inputDir ls with ⟨hnone, hok⟩ | ⟨language, codes, hfirst, herror⟩
  · rw [hok]
    exact .inl ⟨hnone, rfl⟩
  · rw [herror]
    exact .inr ⟨language, codes, hfirst, rfl⟩

theorem not_lacksDefault_iff :
    (∀ language, ¬LacksDefault ls language) ↔ ∀ l ∈ ls, Locale.default l.language ∈ ls := by
  constructor
  · intro h l hl
    by_contra hdefault
    exact h l.language ⟨⟨l, hl, rfl⟩, hdefault⟩
  · rintro h language ⟨⟨l, hl, rfl⟩, hdefault⟩
    exact hdefault (h l hl)

theorem build_ok_iff {inputDir : Text} {gs : List LanguageGroup} :
    (build inputDir ls).outcome = .ok gs ↔
      gs = ofLocales ls ∧ ∀ l ∈ ls, Locale.default l.language ∈ ls := by
  rw [← not_lacksDefault_iff]
  rcases build_cases inputDir ls with ⟨hnone, hok⟩ | ⟨language, codes, hfirst, herror⟩
  · simp [hok, hnone, eq_comm]
  · rw [herror]
    simp only [reduceCtorEq, false_iff, not_and]
    intro _ hnone
    exact hnone language hfirst.lacks

theorem build_error {inputDir : Text} {t : Trouble}
    (h : (build inputDir ls).outcome = .error t) :
    ∃ f, t = .failure f ∧ f.kind = .missingFallback := by
  rcases build_cases inputDir ls with ⟨_, hok⟩ | ⟨language, codes, _, herror⟩
  · exact absurd (h.symm.trans hok) (by simp)
  · obtain rfl := Except.error.inj (h.symm.trans herror)
    exact ⟨_, rfl, rfl⟩

end Groups

end Phrasebook
