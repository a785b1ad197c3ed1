import Mathlib
import Phrasebook.Emitted.LookupTable
import Phrasebook.Proofs.Outcome

/-! The lookup table of groups has one target for each locale: under its language and region, or
under its language if it is the language's default. -/

namespace Phrasebook.LookupTable

/-- All targets of a table. -/
def targets (t : LookupTable) : List LookupTarget :=
  t.byRegion.map (·.2) ++ t.byLanguage.map (·.2)

variable {p : ClassPrefix} {gs : List LanguageGroup}

/-- The locales are shared out between the two parts of the table. -/
theorem targets_ofGroups_perm :
    (ofGroups p gs).targets.Perm ((Groups.locales gs).map (LookupTarget.ofLocale p)) := by
  simp only [targets, ofGroups]
  induction Groups.locales gs with
  | nil => simp
  | cons l ls ih =>
    obtain ⟨language, region⟩ := l
    cases region with
    | none =>
      simp only [List.filterMap_cons, Option.map_none, Locale.isDefault, Option.isNone_none,
        ↓reduceIte, List.map_cons]
      exact List.perm_middle.trans (ih.cons _)
    | some region =>
      simp only [List.filterMap_cons, Option.map_some, Locale.isDefault, Option.isNone_some,
        Bool.false_eq_true, ↓reduceIte, List.map_cons, List.cons_append]
      exact ih.cons _

theorem of_mem_byRegion {e : (Text × Text) × LookupTarget} (h : e ∈ (ofGroups p gs).byRegion) :
    (⟨e.1.1, some e.1.2⟩ : Locale) ∈ Groups.locales gs ∧
      e.2 = LookupTarget.ofLocale p ⟨e.1.1, some e.1.2⟩ := by
  obtain ⟨⟨language, region⟩, hl, he⟩ := List.mem_filterMap.mp h
  cases region with
  | none => exact absurd he (by simp)
  | some region =>
    obtain rfl := Option.some.inj he
    exact ⟨hl, rfl⟩

theorem of_mem_byLanguage {e : Text × LookupTarget} (h : e ∈ (ofGroups p gs).byLanguage) :
    Locale.default e.1 ∈ Groups.locales gs ∧
      e.2 = LookupTarget.ofLocale p (.default e.1) := by
  obtain ⟨⟨language, region⟩, hl, he⟩ := List.mem_filterMap.mp h
  cases region with
  | none =>
    obtain rfl := Option.some.inj he
    exact ⟨hl, rfl⟩
  | some region => exact absurd he (by simp [Locale.isDefault])

theorem mem_targets_iff {target : LookupTarget} : target ∈ (ofGroups p gs).targets ↔
    ∃ l ∈ Groups.locales gs, target = LookupTarget.ofLocale p l := by
  rw [targets_ofGroups_perm.mem_iff, List.mem_map]
  simp only [eq_comm]

/-- The target of a request is that of its own entry, or else that of its language's. -/
theorem toOption_resolve (t : LookupTable) (language : Text) (region : Option Text) :
    (t.resolve language region).toOption =
      (region.bind fun code => t.byRegion.lookup (language, code)).or
        (t.byLanguage.lookup language) := by
  unfold resolve
  cases region.bind fun code => t.byRegion.lookup (language, code) with
  | some target => rfl
  | none => cases t.byLanguage.lookup language <;> rfl

/-- A request is unsupported or has a target. -/
theorem toOption_resolve_eq_none_iff {t : LookupTable} {language : Text} {region : Option Text} :
    (t.resolve language region).toOption = none ↔
      ∃ code, t.resolve language region = .error (.unsupportedLocale code) := by
  unfold resolve
  dsimp only
  split
  · simp [Except.toOption]
  · split <;> simp [Except.toOption]

/-! ### What requests depend on -/

theorem lookup_byRegion (p : ClassPrefix) (gs : List LanguageGroup) (language code : Text) :
    (ofGroups p gs).byRegion.lookup (language, code) =
      if ⟨language, some code⟩ ∈ Groups.locales gs then
        some (LookupTarget.ofLocale p ⟨language, some code⟩)
      else none := by
  refine lookup_filterMap (by rfl) ?_ _
  rintro ⟨language', region⟩ target h
  cases region with
  | none => exact absurd h (by simp)
  | some code' =>
    obtain ⟨rfl, rfl⟩ := Prod.mk.inj (Prod.mk.inj (Option.some.inj h)).1
    rfl

theorem lookup_byLanguage (p : ClassPrefix) (gs : List LanguageGroup) (language : Text) :
    (ofGroups p gs).byLanguage.lookup language =
      if Locale.default language ∈ Groups.locales gs then
        some (LookupTarget.ofLocale p (.default language))
      else none := by
  refine lookup_filterMap (by rfl) ?_ _
  rintro ⟨language', region⟩ target h
  cases region with
  | none =>
    obtain ⟨rfl, _⟩ := Prod.mk.inj (Option.some.inj h)
    rfl
  | some code' => exact absurd h (by simp [Locale.isDefault])

/-- The two phases of a request: its own locale, and the default of its language. -/
theorem resolve_ofGroups (p : ClassPrefix) (gs : List LanguageGroup) (language : Text)
    (region : Option Text) : (ofGroups p gs).resolve language region =
      if ⟨language, region⟩ ∈ Groups.locales gs then
        .ok (LookupTarget.ofLocale p ⟨language, region⟩)
      else if Locale.default language ∈ Groups.locales gs then
        .ok (LookupTarget.ofLocale p (.default language))
      else .error (.unsupportedLocale (Locale.canonical ⟨language, region⟩)) := by
  unfold resolve
  rw [lookup_byLanguage]
  cases region with
  | none =>
    have hdefault : (⟨language, none⟩ : Locale) = .default language := rfl
    rw [Option.bind_none, hdefault]
    split_ifs <;> rfl
  | some code =>
    rw [Option.bind_some, lookup_byRegion]
    split_ifs <;> rfl

/-- A request depends on its own locale and on the default of its language alone. -/
theorem resolve_congr {gs' : List LanguageGroup} {language : Text} {region : Option Text}
    (hexact : ∀ code, region = some code →
      (⟨language, some code⟩ ∈ Groups.locales gs' ↔ ⟨language, some code⟩ ∈ Groups.locales gs))
    (hdefault :
      Locale.default language ∈ Groups.locales gs' ↔ Locale.default language ∈ Groups.locales gs) :
    (ofGroups p gs').resolve language region = (ofGroups p gs).resolve language region := by
  have hown : ⟨language, region⟩ ∈ Groups.locales gs' ↔ ⟨language, region⟩ ∈ Groups.locales gs := by
    cases region with
    | none => exact hdefault
    | some code => exact hexact code rfl
  rw [resolve_ofGroups, resolve_ofGroups]
  simp only [hown, hdefault]

end Phrasebook.LookupTable
