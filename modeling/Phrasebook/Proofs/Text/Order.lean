import Mathlib
import Phrasebook.Locale

/-! The order of texts by code point is linear, and so is the order of locales as long as no region
is empty. A sorted list without repetitions is therefore determined by its members. -/

namespace Phrasebook

theorem CodePoint.val_injective : Function.Injective CodePoint.val := by
  rintro ⟨m, _⟩ ⟨n, _⟩ (rfl : m = n)
  rfl

namespace Text

theorem le_cons_cons (a b : CodePoint) (x y : Text) :
    le (a :: x) (b :: y) = true ↔ a.val < b.val ∨ a = b ∧ le x y = true := by
  simp [le]

@[simp] theorem le_refl (t : Text) : le t t = true := by
  induction t with
  | nil => rfl
  | cons c t ih => exact (le_cons_cons c c t t).mpr (.inr ⟨rfl, ih⟩)

theorem le_total (x y : Text) : (le x y || le y x) = true := by
  rw [Bool.or_eq_true]
  induction x generalizing y with
  | nil => exact .inl rfl
  | cons a x ih =>
    cases y with
    | nil => exact .inr rfl
    | cons b y =>
      simp only [le_cons_cons]
      rcases Nat.lt_trichotomy a.val b.val with hab | hab | hab
      · exact .inl (.inl hab)
      · have heq : a = b := CodePoint.val_injective hab
        rcases ih y with hxy | hyx
        · exact .inl (.inr ⟨heq, hxy⟩)
        · exact .inr (.inr ⟨heq.symm, hyx⟩)
      · exact .inr (.inl hab)

theorem le_trans (x y z : Text) (hxy : le x y = true) (hyz : le y z = true) : le x z = true := by
  induction x generalizing y z with
  | nil => rfl
  | cons a x ih =>
    cases y with
    | nil => exact absurd hxy (by simp [le])
    | cons b y =>
      cases z with
      | nil => exact absurd hyz (by simp [le])
      | cons c z =>
        rw [le_cons_cons] at hxy hyz ⊢
        rcases hxy with hab | ⟨rfl, hxy⟩
        · rcases hyz with hbc | ⟨rfl, _⟩
          · exact .inl (hab.trans hbc)
          · exact .inl hab
        · rcases hyz with hac | ⟨rfl, hyz⟩
          · exact .inl hac
          · exact .inr ⟨rfl, ih y z hxy hyz⟩

theorem le_antisymm (x y : Text) (hxy : le x y = true) (hyx : le y x = true) : x = y := by
  induction x generalizing y with
  | nil =>
    cases y with
    | nil => rfl
    | cons b y => exact absurd hyx (by simp [le])
  | cons a x ih =>
    cases y with
    | nil => exact absurd hxy (by simp [le])
    | cons b y =>
      rw [le_cons_cons] at hxy hyx
      rcases hxy with hab | ⟨rfl, hxy⟩
      · rcases hyx with hba | ⟨rfl, _⟩
        · omega
        · omega
      · rcases hyx with haa | ⟨_, hyx⟩
        · omega
        · rw [ih y hxy hyx]

/-- Sorting puts texts in order. -/
theorem pairwise_mergeSort (ts : List Text) :
    (ts.mergeSort le).Pairwise fun x y => le x y = true :=
  List.pairwise_mergeSort le_trans le_total ts

/-- Strictly before in the order of code points. -/
def Precedes (x y : Text) : Prop :=
  le x y = true ∧ x ≠ y

instance (x y : Text) : Decidable (Precedes x y) :=
  inferInstanceAs (Decidable (_ ∧ _))

theorem Precedes.asymm {x y : Text} (h : Precedes x y) : ¬Precedes y x :=
  fun h' => h.2 (le_antisymm x y h.1 h'.1)

theorem precedes_or_precedes {x y : Text} (h : x ≠ y) : Precedes x y ∨ Precedes y x := by
  rcases Bool.or_eq_true_iff.mp (le_total x y) with hxy | hyx
  · exact .inl ⟨hxy, h⟩
  · exact .inr ⟨hyx, h.symm⟩

theorem pairwise_precedes {ts : List Text} (h : ts.Pairwise fun x y => le x y = true)
    (hnodup : ts.Nodup) : ts.Pairwise Precedes :=
  h.and hnodup

/-- Two strictly increasing lists of texts with the same members are the same list. -/
theorem eq_of_pairwise_precedes {xs ys : List Text} (hx : xs.Pairwise Precedes)
    (hy : ys.Pairwise Precedes) (same : ∀ t, t ∈ xs ↔ t ∈ ys) : xs = ys := by
  have hp : xs.Perm ys :=
    (List.perm_ext_iff_of_nodup (hx.imp And.right) (hy.imp And.right)).mpr same
  exact hp.eq_of_pairwise (fun x y _ _ hxy hyx => absurd hyx hxy.asymm) hx hy

end Text

namespace Locale

theorem le_of_language_eq {a b : Locale} (h : a.language = b.language) :
    le a b = Text.le (a.region.getD []) (b.region.getD []) := by
  simp [le, h]

theorem le_of_language_ne {a b : Locale} (h : a.language ≠ b.language) :
    le a b = Text.le a.language b.language := by
  simp [le, h]

/-- Locales of one language are in the order of their regions. -/
theorem le_mk (language : Text) (a b : Option Text) :
    le ⟨language, a⟩ ⟨language, b⟩ = Text.le (a.getD []) (b.getD []) :=
  le_of_language_eq rfl

theorem le_total (a b : Locale) : (le a b || le b a) = true := by
  by_cases h : a.language = b.language
  · rw [le_of_language_eq h, le_of_language_eq h.symm]
    exact Text.le_total _ _
  · rw [le_of_language_ne h, le_of_language_ne (Ne.symm h)]
    exact Text.le_total _ _

theorem language_le {a b : Locale} (h : le a b = true) :
    Text.le a.language b.language = true := by
  by_cases hl : a.language = b.language
  · rw [hl]
    exact Text.le_refl _
  · rwa [le_of_language_ne hl] at h

theorem le_trans (a b c : Locale) (hab : le a b = true) (hbc : le b c = true) :
    le a c = true := by
  by_cases hac : a.language = c.language
  · have hba : b.language = a.language :=
      Text.le_antisymm _ _ (hac ▸ language_le hbc) (language_le hab)
    rw [le_of_language_eq hba.symm] at hab
    rw [le_of_language_eq (hba.trans hac)] at hbc
    rw [le_of_language_eq hac]
    exact Text.le_trans _ _ _ hab hbc
  · rw [le_of_language_ne hac]
    exact Text.le_trans _ _ _ (language_le hab) (language_le hbc)

/-- Locales are in the order of their sort keys, languages first. -/
theorem le_iff_lex_sortKey {a b : Locale} : le a b = true ↔
    Prod.Lex Text.Precedes (fun x y => Text.le x y = true) a.sortKey b.sortKey := by
  rw [Prod.lex_def]
  by_cases h : a.language = b.language
  · rw [le_of_language_eq h]
    constructor
    · exact fun hle => .inr ⟨h, hle⟩
    · rintro (hlt | ⟨_, hle⟩)
      · exact absurd h hlt.2
      · exact hle
  · rw [le_of_language_ne h]
    constructor
    · exact fun hle => .inl ⟨hle, h⟩
    · rintro (hlt | ⟨heq, _⟩)
      · exact hlt.1
      · exact absurd heq h

theorem sortKey_eq_of_le {a b : Locale} (hab : le a b = true) (hba : le b a = true) :
    a.sortKey = b.sortKey := by
  have hl : a.language = b.language := Text.le_antisymm _ _ (language_le hab) (language_le hba)
  rw [le_of_language_eq hl] at hab
  rw [le_of_language_eq hl.symm] at hba
  exact Prod.ext hl (Text.le_antisymm _ _ hab hba)

/-- Where no region is empty, the sort key determines the locale. -/
theorem sortKey_inj {a b : Locale} (ha : a.region ≠ some []) (hb : b.region ≠ some [])
    (h : a.sortKey = b.sortKey) : a = b := by
  obtain ⟨language, region⟩ := a
  obtain ⟨language', region'⟩ := b
  obtain ⟨rfl, hr⟩ : language = language' ∧ region.getD [] = region'.getD [] := Prod.mk.inj h
  cases region with
  | none =>
    cases region' with
    | none => rfl
    | some code => exact absurd (congrArg some hr.symm) hb
  | some code =>
    cases region' with
    | none => exact absurd (congrArg some hr) ha
    | some code' => rw [show code = code' from hr]

theorem le_antisymm {a b : Locale} (ha : a.region ≠ some []) (hb : b.region ≠ some [])
    (hab : le a b = true) (hba : le b a = true) : a = b :=
  sortKey_inj ha hb (sortKey_eq_of_le hab hba)

/-- Strictly before: in the order of languages, and within a language the default first and then
in the order of regions. -/
inductive Precedes : Locale → Locale → Prop
  | language {a b : Locale} (h : Text.Precedes a.language b.language) : Precedes a b
  | default (language code : Text) : Precedes ⟨language, none⟩ ⟨language, some code⟩
  | region (language : Text) {code code' : Text} (h : Text.Precedes code code') :
    Precedes ⟨language, some code⟩ ⟨language, some code'⟩

/-- Where no region is empty, the sort key puts locales strictly in order. -/
theorem precedes_of_le {a b : Locale} (ha : a.region ≠ some []) (h : le a b = true)
    (hne : a ≠ b) : Precedes a b := by
  obtain ⟨language, region⟩ := a
  obtain ⟨language', region'⟩ := b
  by_cases hl : language = language'
  · subst hl
    rw [le_mk] at h
    cases region' with
    | none =>
      cases region with
      | none => exact absurd rfl hne
      | some code =>
        have hcode : code = [] := Text.le_antisymm code [] h rfl
        exact absurd (congrArg some hcode) ha
    | some code' =>
      cases region with
      | none => exact .default language code'
      | some code => exact .region language ⟨h, by simpa using hne⟩
  · rw [le_of_language_ne hl] at h
    exact .language ⟨h, hl⟩

/-- Two sorted lists with the same members, each once, are the same list. -/
theorem eq_of_sorted {xs ys : List Locale} (hx : xs.Pairwise fun a b => le a b = true)
    (hy : ys.Pairwise fun a b => le a b = true) (nx : xs.Nodup) (ny : ys.Nodup)
    (proper : ∀ l ∈ xs, l.region ≠ some []) (same : ∀ l, l ∈ xs ↔ l ∈ ys) : xs = ys := by
  have hp : xs.Perm ys := (List.perm_ext_iff_of_nodup nx ny).mpr same
  apply hp.eq_of_pairwise _ hx hy
  intro a b ha hb hab hba
  exact le_antisymm (proper a ha) (proper b ((same b).mpr hb)) hab hba

end Locale

end Phrasebook
