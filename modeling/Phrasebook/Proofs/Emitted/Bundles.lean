import Mathlib
import Phrasebook.Emitted.AccessorClass
import Phrasebook.Proofs.Outcome

/-! Bundles of classes. Where every locale of the groups has phrases, making the classes never
fails, and the bundles hold one class for each locale, in the order of the groups. -/

namespace Phrasebook.Bundle

variable {p : ClassPrefix} {sets : List PhraseSet}

theorem exists_setOf {l : Locale} (h : l ∈ sets.map (·.locale)) :
    ∃ s ∈ sets, s.locale = l ∧ setOf sets l = .ok s := by
  unfold setOf
  cases hfind : sets.find? fun s => s.locale == l with
  | some s =>
    have hlocale := List.find?_some hfind
    exact ⟨s, List.mem_of_find?_eq_some hfind, by simpa using hlocale, rfl⟩
  | none =>
    obtain ⟨s, hs, rfl⟩ := List.mem_map.mp h
    exact absurd (List.find?_eq_none.mp hfind s hs) (by simp)

/-- The class is made from the phrases of one of the sets. -/
def Made (p : ClassPrefix) (sets : List PhraseSet) (c : AccessorClass) : Prop :=
  ∃ s ∈ sets, c = AccessorClass.ofSet p s

theorem exists_classesOf {ls : List Locale} (h : ∀ l ∈ ls, l ∈ sets.map (·.locale)) :
    ∃ classes, (classesOf p sets ls).outcome = .ok classes ∧ classes.map (·.locale) = ls ∧
      ∀ c ∈ classes, Made p sets c := by
  induction ls with
  | nil => exact ⟨[], rfl, rfl, by simp⟩
  | cons l ls ih =>
    rw [List.forall_mem_cons] at h
    obtain ⟨s, hs, rfl, hset⟩ := exists_setOf h.1
    obtain ⟨classes, hclasses, hlocales, hmade⟩ := ih h.2
    refine ⟨AccessorClass.ofSet p s :: classes, ?_, ?_, ?_⟩
    · simp only [classesOf, Traced.outcome_bind, Traced.outcome_ofExcept, Traced.outcome_note,
        hset, hclasses]
      rfl
    · rw [List.map_cons, hlocales]
      rfl
    · rw [List.forall_mem_cons]
      exact ⟨⟨s, hs, rfl⟩, hmade⟩

/-- The bundle of a group: its language, and a class for each of its locales. -/
structure OfGroup (p : ClassPrefix) (sets : List PhraseSet) (g : LanguageGroup) (b : Bundle) :
    Prop where
  language : b.1 = g.language
  locales : b.2.map (·.locale) = g.locales
  made : ∀ c ∈ b.2, Made p sets c

/-- Where all locales of the groups have phrases, each group has its bundle. -/
theorem exists_ofGroups {gs : List LanguageGroup}
    (h : ∀ l ∈ Groups.locales gs, l ∈ sets.map (·.locale)) :
    ∃ bundles, (ofGroups p sets gs).outcome = .ok bundles ∧
      List.Forall₂ (OfGroup p sets) gs bundles := by
  induction gs with
  | nil => exact ⟨[], rfl, .nil⟩
  | cons g gs ih =>
    rw [Groups.locales, List.flatMap_cons, List.forall_mem_append] at h
    obtain ⟨classes, hclasses, hlocales, hmade⟩ := exists_classesOf (p := p) h.1
    obtain ⟨bundles, hbundles, hall⟩ := ih h.2
    refine ⟨(g.language, classes) :: bundles, ?_, .cons ⟨rfl, hlocales, hmade⟩ hall⟩
    simp only [ofGroups, Traced.outcome_bind, hclasses, hbundles]
    rfl

variable {gs : List LanguageGroup} {bundles : List Bundle}

theorem ofGroups_ok (h : ∀ l ∈ Groups.locales gs, l ∈ sets.map (·.locale))
    (hok : (ofGroups p sets gs).outcome = .ok bundles) :
    List.Forall₂ (OfGroup p sets) gs bundles := by
  obtain ⟨bundles', hok', hall⟩ := exists_ofGroups (p := p) h
  obtain rfl : bundles = bundles' := Except.ok.inj (hok.symm.trans hok')
  exact hall

theorem map_locale_classes (h : List.Forall₂ (OfGroup p sets) gs bundles) :
    (classes bundles).map (·.locale) = Groups.locales gs := by
  induction h with
  | nil => rfl
  | @cons g b gs bundles hb _ ih =>
    show (b.2 ++ classes bundles).map (·.locale) = g.locales ++ Groups.locales gs
    rw [List.map_append, hb.locales, ih]

theorem map_language (h : List.Forall₂ (OfGroup p sets) gs bundles) :
    bundles.map (·.1) = gs.map (·.language) :=
  (map_eq_map_of_forall₂ h fun _ _ hb => hb.language.symm).symm

theorem made_of_mem_classes (h : List.Forall₂ (OfGroup p sets) gs bundles) {c : AccessorClass}
    (hc : c ∈ classes bundles) : Made p sets c := by
  obtain ⟨b, hb, hcb⟩ := List.mem_flatMap.mp hc
  obtain ⟨g, _, hgb⟩ := exists_mem_left h hb
  exact hgb.made c hcb

variable {sets' : List PhraseSet} {g : LanguageGroup} {b b' : Bundle}

/-- The entries that two lists of sets have for the same locale are the same. -/
def Agree (sets sets' : List PhraseSet) : Prop :=
  ∀ s ∈ sets, ∀ s' ∈ sets', s.locale = s'.locale → s.entries = s'.entries

theorem agree_self (h : (sets.map (·.locale)).Nodup) : Agree sets sets := by
  intro s hs s' hs' hlocale
  rw [List.inj_on_of_nodup_map h hs hs' hlocale]

theorem Made.eq {c c' : AccessorClass} (hagree : Agree sets sets') (h : Made p sets c)
    (h' : Made p sets' c') (hlocale : c.locale = c'.locale) : c = c' := by
  obtain ⟨s, hs, rfl⟩ := h
  obtain ⟨s', hs', rfl⟩ := h'
  have hlocale : s.locale = s'.locale := hlocale
  simp only [AccessorClass.ofSet, hlocale, hagree s hs s' hs' hlocale]

/-- A bundle depends on its group and on the entries for the locales alone. -/
theorem OfGroup.eq (hagree : Agree sets sets') (h : OfGroup p sets g b)
    (h' : OfGroup p sets' g b') : b = b' := by
  apply Prod.ext (h.language.trans h'.language.symm)
  have hlocales := h.locales.trans h'.locales.symm
  have hmade := h.made
  have hmade' := h'.made
  generalize b.2 = cs at hlocales hmade ⊢
  generalize b'.2 = cs' at hlocales hmade' ⊢
  induction cs generalizing cs' with
  | nil => exact (List.map_eq_nil_iff.mp hlocales.symm).symm
  | cons c cs ih =>
    cases cs' with
    | nil => exact absurd hlocales (by simp)
    | cons c' cs' =>
      rw [List.map_cons, List.map_cons] at hlocales
      obtain ⟨hhead, htail⟩ := List.cons.inj hlocales
      rw [List.forall_mem_cons] at hmade hmade'
      rw [hmade.1.eq hagree hmade'.1 hhead, ih hmade.2 cs' htail hmade'.2]

/-- Bundles are related as their groups are. -/
theorem forall₂_of_groups {gs' : List LanguageGroup} {bundles' : List Bundle}
    {R : LanguageGroup → LanguageGroup → Prop} {Q : Bundle → Bundle → Prop}
    (hbundle : ∀ g g' b b', R g g' → OfGroup p sets g b → OfGroup p sets' g' b' → Q b b')
    (hgroups : List.Forall₂ R gs gs') (h : List.Forall₂ (OfGroup p sets) gs bundles)
    (h' : List.Forall₂ (OfGroup p sets') gs' bundles') : List.Forall₂ Q bundles bundles' := by
  induction hgroups generalizing bundles bundles' with
  | nil =>
    rw [List.forall₂_nil_left_iff] at h h'
    rw [h, h']
    exact .nil
  | cons hg _ ih =>
    obtain ⟨b, rest, hb, hrest, rfl⟩ := List.forall₂_cons_left_iff.mp h
    obtain ⟨b', rest', hb', hrest', rfl⟩ := List.forall₂_cons_left_iff.mp h'
    exact .cons (hbundle _ _ _ _ hg hb hb') (ih hrest hrest')

theorem eq_of_ofGroups {bundles' : List Bundle} (hagree : Agree sets sets')
    (h : List.Forall₂ (OfGroup p sets) gs bundles)
    (h' : List.Forall₂ (OfGroup p sets') gs bundles') : bundles = bundles' := by
  have hsame : List.Forall₂ Eq gs gs := List.forall₂_same.mpr fun _ _ => rfl
  rw [← List.forall₂_eq_eq_eq]
  refine forall₂_of_groups ?_ hsame h h'
  rintro g _ b b' rfl hb hb'
  exact hb.eq hagree hb'

end Phrasebook.Bundle
