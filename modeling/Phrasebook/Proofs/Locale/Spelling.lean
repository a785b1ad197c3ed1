import Mathlib
import Phrasebook.Proofs.Locale.Code
import Phrasebook.Proofs.Outcome
import Phrasebook.Proofs.Text.Recasing

/-! Spellings of locale codes. The normal spelling of a code is its own normal spelling, the
canonical form of a locale is the normal spelling of every code that denotes it, and codes that
differ in nothing but their spelling are accepted or refused alike. -/

namespace Phrasebook

/-- The tables list the language of a locale, and its region if it has one. -/
structure Reference.Lists (r : Reference) (l : Locale) : Prop where
  language : r.hasLanguage l.language = true
  region : ∀ code ∈ l.region, r.hasRegion code = true

namespace Locale

variable {r : Reference} {code other : Text} {l : Locale}

/-! ### Normal spelling -/

/-- Subtags in the case that normal spelling gives them. -/
def normalTags : List Text → List Text
  | [] => []
  | [language] => [language.lower]
  | language :: region :: rest => language.lower :: region.upper :: rest

/-- The parts of the canonical form. -/
def tags (l : Locale) : List Text :=
  l.language :: l.region.toList

theorem canonical_eq_joined (l : Locale) : l.canonical = Text.joined [separator] l.tags := by
  obtain ⟨language, region⟩ := l
  cases region with
  | none => simp [canonical, tags, Text.joined]
  | some region => simp [canonical, tags, Text.joined, List.intercalate_cons_cons]

theorem normalize_eq_joined (code : Text) :
    normalize code = Text.joined [separator] (normalTags (subtags code)) := by
  unfold normalize
  split
  next h => rw [h]; rfl
  next language h => rw [h]; exact List.intercalate_singleton.symm
  next language region rest h => rw [h]; rfl

theorem normalTags_normalTags (parts : List Text) :
    normalTags (normalTags parts) = normalTags parts := by
  rcases parts with _ | ⟨language, _ | ⟨region, rest⟩⟩ <;> simp [normalTags]

theorem recased_normalTags (parts : List Text) :
    List.Forall₂ Text.Recased parts (normalTags parts) := by
  rcases parts with _ | ⟨language, _ | ⟨region, rest⟩⟩
  · exact .nil
  · exact .cons (Text.recased_lower language) .nil
  · have hrest : List.Forall₂ Text.Recased rest rest :=
      List.forall₂_same.mpr fun part _ => .refl part
    exact .cons (Text.recased_lower language) (.cons (Text.recased_upper region) hrest)

theorem not_separator_of_mem_normalTags {parts : List Text}
    (h : ∀ part ∈ parts, ∀ c ∈ part, isSeparator c = false) :
    ∀ part ∈ normalTags parts, ∀ c ∈ part, isSeparator c = false := by
  rcases parts with _ | ⟨language, _ | ⟨region, rest⟩⟩
  · exact h
  · rw [List.forall_mem_singleton] at h
    rw [normalTags, List.forall_mem_singleton]
    exact not_separator_of_mem_lower h
  · rw [List.forall_mem_cons, List.forall_mem_cons] at h
    rw [normalTags, List.forall_mem_cons, List.forall_mem_cons]
    exact ⟨not_separator_of_mem_lower h.1, not_separator_of_mem_upper h.2.1, h.2.2⟩

theorem normalTags_ne_nil {parts : List Text} (h : parts ≠ []) : normalTags parts ≠ [] := by
  rcases parts with _ | ⟨language, _ | ⟨region, rest⟩⟩ <;> simp_all [normalTags]

theorem subtags_ne_nil (code : Text) : subtags code ≠ [] :=
  Text.splitWhere_ne_nil isSeparator _

/-- Normal spelling has no blanks at its ends. -/
theorem isBare_normalize (code : Text) : Text.IsBare CodePoint.isBlank (normalize code) := by
  have htrimmed := Text.isBare_trim CodePoint.isBlank code
  -- neither the underscores nor, after them, the other case put blanks where there were none
  have hmarked : Text.Recased (code.trim CodePoint.isBlank)
      (Text.joined [separator] (subtags code)) := by
    rw [subtags, Text.joined_splitWhere]
    apply Text.Recased.map
    intro c
    split_ifs with hc
    · exact fun hblank => absurd hblank (by decide)
    · exact id
  rw [normalize_eq_joined]
  exact (Text.Recased.joined (recased_normalTags _)).isBare (hmarked.isBare htrimmed)

/-- Normal spelling can be taken apart again. -/
theorem subtags_normalize (code : Text) : subtags (normalize code) = normalTags (subtags code) := by
  have hparts : ∀ part ∈ subtags code, ∀ c ∈ part, isSeparator c = false :=
    fun _ h => not_separator_of_mem_subtags h
  rw [subtags, (isBare_normalize code).trim_eq, normalize_eq_joined]
  exact Text.splitWhere_joined (normalTags_ne_nil (subtags_ne_nil code))
    (not_separator_of_mem_normalTags hparts) (by decide)

theorem normalize_normalize (code : Text) : normalize (normalize code) = normalize code := by
  rw [normalize_eq_joined, subtags_normalize, normalTags_normalTags, ← normalize_eq_joined]

/-! ### What parsing gives -/

theorem parse_of_unknown {tag : Text} {rest : List Text} (hs : subtags code = tag :: rest)
    (hlang : r.hasLanguage tag.lower = false) :
    parse r code = .error (.unknownLanguage tag.lower code) := by
  simp [parse, hs, hlang]

theorem parse_of_language {tag : Text} (hs : subtags code = [tag])
    (hlang : r.hasLanguage tag.lower = true) : parse r code = .ok ⟨tag.lower, none⟩ := by
  simp [parse, hs, hlang]

theorem parse_of_region {tag sub : Text} (hs : subtags code = [tag, sub])
    (hlang : r.hasLanguage tag.lower = true) : parse r code =
      if r.hasRegion sub.upper then .ok ⟨tag.lower, some sub.upper⟩
      else .error (.unknownRegion sub.upper code) := by
  cases hregion : r.hasRegion sub.upper <;> simp [parse, hs, hlang, hregion]

theorem parse_of_extra {tag sub extra : Text} {rest : List Text}
    (hs : subtags code = tag :: sub :: extra :: rest) (hlang : r.hasLanguage tag.lower = true) :
    parse r code = .error (.extraSubtags code) := by
  simp [parse, hs, hlang]

/-- A code is accepted for the locale that its normal spelling writes, if the tables list it. -/
theorem parse_eq_ok_iff :
    parse r code = .ok l ↔ normalTags (subtags code) = l.tags ∧ r.Lists l := by
  constructor
  · intro h
    rcases parse_cases h with ⟨tag, hs, hlang, rfl⟩ | ⟨tag, sub, hs, hlang, hregion, rfl⟩
    · exact ⟨by rw [hs]; rfl, hlang, by simp⟩
    · exact ⟨by rw [hs]; rfl, hlang, by simpa using hregion⟩
  · obtain ⟨language, region⟩ := l
    rintro ⟨htags, hlang, hregion⟩
    rcases hs : subtags code with _ | ⟨tag, _ | ⟨sub, _ | ⟨extra, rest⟩⟩⟩
    · exact absurd hs (subtags_ne_nil code)
    · obtain ⟨rfl, rfl⟩ : tag.lower = language ∧ region = none := by
        cases region <;> simp_all [normalTags, tags]
      exact parse_of_language hs hlang
    · obtain ⟨rfl, rfl⟩ : tag.lower = language ∧ region = some sub.upper := by
        cases region <;> simp_all [normalTags, tags]
      rw [parse_of_region hs hlang, if_pos (hregion sub.upper rfl)]
    · cases region <;> exact absurd htags (by simp [hs, normalTags, tags])

theorem normalize_of_parse (h : parse r code = .ok l) : normalize code = l.canonical := by
  rw [normalize_eq_joined, (parse_eq_ok_iff.mp h).1, ← canonical_eq_joined]

/-- For a locale that is denoted at all, the normal spelling of a code tells whether it denotes it
too. -/
theorem parse_iff_normalize (h : parse r other = .ok l) :
    parse r code = .ok l ↔ normalize code = l.canonical := by
  constructor
  · exact normalize_of_parse
  · intro hcanonical
    obtain ⟨hother, hlists⟩ := parse_eq_ok_iff.mp h
    refine parse_eq_ok_iff.mpr ⟨?_, hlists⟩
    rw [← subtags_normalize, hcanonical, ← normalize_of_parse h, subtags_normalize, hother]

theorem parse_canonical (h : parse r code = .ok l) : parse r l.canonical = .ok l := by
  rw [parse_iff_normalize h, ← normalize_of_parse h, normalize_normalize]

/-- Canonical forms are settled. The canonical form of a denoted locale denotes it again and is
the normal spelling of the code, so that making a code canonical a second time changes nothing,
and neither does normalizing any code a second time. -/
theorem canonical_settled (r : Reference) (code : Text) :
    (∀ l, parse r code = .ok l → parse r l.canonical = .ok l ∧ l.canonical = normalize code) ∧
    (∀ t, canonicalize r code = .ok t → canonicalize r t = .ok t) ∧
    normalize (normalize code) = normalize code := by
  refine ⟨?_, ?_, normalize_normalize code⟩
  · intro l h
    exact ⟨parse_canonical h, (normalize_of_parse h).symm⟩
  · intro t h
    obtain ⟨l, hl, rfl⟩ : ∃ l, parse r code = .ok l ∧ l.canonical = t := by
      unfold canonicalize at h
      cases hparse : parse r code with
      | error f => exact absurd h (by simp [hparse, Except.map])
      | ok l => exact ⟨l, rfl, by simpa [hparse, Except.map] using h⟩
    rw [canonicalize, parse_canonical hl]
    rfl

/-- Tables with a language that ends in a final sigma and a region that lengthens in uppercase. -/
def roadReference : Reference :=
  ⟨[("οδος", "Road")], [("SS", "Double")]⟩

theorem canonical_settled_road :
    parse roadReference " ΟΔΟΣ-ß\t" = .ok ⟨"οδος", some "SS"⟩ ∧
    parse roadReference "οδος_SS" = .ok ⟨"οδος", some "SS"⟩ ∧
    canonicalize roadReference " ΟΔΟΣ-ß\t" = .ok "οδος_SS" ∧
    canonicalize roadReference "οδος_SS" = .ok "οδος_SS" := by
  have hparse : parse roadReference " ΟΔΟΣ-ß\t" = .ok ⟨"οδος", some "SS"⟩ := by rfl
  have hcanonical : canonicalize roadReference " ΟΔΟΣ-ß\t" = .ok "οδος_SS" := by rfl
  have hsettled := canonical_settled roadReference " ΟΔΟΣ-ß\t"
  exact ⟨hparse, (hsettled.1 _ hparse).1, hcanonical, hsettled.2.1 _ hcanonical⟩

/-! ### Codes spelled alike -/

/-- Code points that may stand for each other in a code: the two separators, and an ASCII letter
in either case. -/
def Interchangeable (c d : CodePoint) : Prop :=
  c.small = d.small ∨ isSeparator c = true ∧ isSeparator d = true

instance (c d : CodePoint) : Decidable (Interchangeable c d) :=
  inferInstanceAs (Decidable (_ ∨ _))

/-- `t` is `x` with blanks around it. -/
def Surrounds (t x : Text) : Prop :=
  ∃ front back : Text, (∀ c ∈ front, c.isBlank = true) ∧ (∀ c ∈ back, c.isBlank = true) ∧
    t = front ++ x ++ back

/-- Two codes that differ at most in the blanks around them, in the choice of separators and in
the case of ASCII letters. -/
def SameCode (a b : Text) : Prop :=
  ∃ x y, Surrounds a x ∧ Surrounds b y ∧ List.Forall₂ Interchangeable x y

/-- What stands for a code point where every code is spelled in one way. -/
def uniform (c : CodePoint) : CodePoint :=
  if isSeparator c then separator else c.small

theorem isSeparator_iff (c : CodePoint) :
    isSeparator c = true ↔ c.val = 0x2D ∨ c.val = 0x5F := by
  rw [isSeparator, Bool.or_eq_true_iff, beq_iff_eq, beq_iff_eq, ← CodePoint.val_injective.eq_iff,
    ← CodePoint.val_injective.eq_iff]
  rfl

theorem isSeparator_small (c : CodePoint) : isSeparator c.small = isSeparator c := by
  rw [Bool.eq_iff_iff, isSeparator_iff, isSeparator_iff, CodePoint.val_small]
  split_ifs <;> omega

theorem isSeparator_uniform (c : CodePoint) : isSeparator (uniform c) = isSeparator c := by
  unfold uniform
  split_ifs with h
  · rw [h]; decide
  · exact isSeparator_small c

theorem not_isBlank_of_isSeparator {c : CodePoint} (h : isSeparator c = true) :
    c.isBlank = false := by
  rcases Bool.or_eq_true_iff.mp h with h | h
  · obtain rfl := eq_of_beq h
    decide
  · obtain rfl := eq_of_beq h
    decide

theorem isBlank_uniform (c : CodePoint) : (uniform c).isBlank = c.isBlank := by
  unfold uniform
  split_ifs with h
  · rw [not_isBlank_of_isSeparator h]
    decide
  · exact CodePoint.isBlank_small c

theorem uniform_eq {c d : CodePoint} (h : Interchangeable c d) : uniform c = uniform d := by
  rcases h with h | ⟨hc, hd⟩
  · have hsep : isSeparator c = isSeparator d := by
      rw [← isSeparator_small c, h, isSeparator_small d]
    rw [uniform, uniform, hsep, h]
  · rw [uniform, uniform, if_pos hc, if_pos hd]

/-- Spelled in that way a code has the same subtags in small letters. -/
theorem subtags_map_uniform (code : Text) :
    subtags (code.map uniform) = (subtags code).map Text.small := by
  rw [subtags, Text.trim_map isBlank_uniform]
  exact Text.splitWhere_map isSeparator_uniform (fun c hc => by simp [uniform, hc]) _

theorem Surrounds.subtags_eq {t x : Text} (h : Surrounds t x) : subtags t = subtags x := by
  obtain ⟨front, back, hfront, hback, rfl⟩ := h
  rw [subtags, Text.trim_surrounded hfront hback, subtags]

theorem SameCode.subtags_eq {a b : Text} (h : SameCode a b) :
    (subtags a).map Text.small = (subtags b).map Text.small := by
  obtain ⟨x, y, hx, hy, hxy⟩ := h
  have huniform : x.map uniform = y.map uniform := map_eq_map_of_forall₂ hxy fun _ _ => uniform_eq
  rw [hx.subtags_eq, hy.subtags_eq, ← subtags_map_uniform, ← subtags_map_uniform, huniform]

/-- Subtags of codes spelled alike are the same in either case. -/
theorem SameCode.forall₂_subtags {a b : Text} (h : SameCode a b) :
    List.Forall₂ (fun tag tag' => tag.lower = tag'.lower ∧ tag.upper = tag'.upper)
      (subtags a) (subtags b) := by
  have hsmall := List.forall₂_eq_eq_eq ▸ h.subtags_eq
  rw [List.forall₂_map_left_iff, List.forall₂_map_right_iff] at hsmall
  apply hsmall.imp
  intro tag tag' htag
  constructor
  · rw [← Text.lower_small tag, htag, Text.lower_small]
  · rw [← Text.upper_small tag, htag, Text.upper_small]

/-- Codes spelled alike denote the same locale or are refused for faults of the same kind. -/
theorem parse_of_sameCode {a b : Text} (r : Reference) (h : SameCode a b) :
    (∃ l, parse r a = .ok l ∧ parse r b = .ok l) ∨
    ∃ f g, parse r a = .error f ∧ parse r b = .error g ∧ f.kind = g.kind := by
  have htags := h.forall₂_subtags
  obtain ⟨tag, rest, hs⟩ := List.exists_cons_of_ne_nil (subtags_ne_nil a)
  obtain ⟨tag', rest', hs'⟩ := List.exists_cons_of_ne_nil (subtags_ne_nil b)
  rw [hs, hs', List.forall₂_cons] at htags
  obtain ⟨⟨htag, _⟩, hrest⟩ := htags
  cases hlang : r.hasLanguage tag.lower with
  | false => exact .inr ⟨_, _, parse_of_unknown hs hlang, parse_of_unknown hs' (htag ▸ hlang), rfl⟩
  | true =>
    have hlang' : r.hasLanguage tag'.lower = true := htag ▸ hlang
    -- both codes have as many subtags, so that the same check decides about both
    cases hrest with
    | nil => exact .inl ⟨_, parse_of_language hs hlang, htag ▸ parse_of_language hs' hlang'⟩
    | cons hsub hextra =>
      cases hextra with
      | nil =>
        have ha := parse_of_region hs hlang
        have hb := parse_of_region hs' hlang'
        rw [← htag, ← hsub.2] at hb
        split_ifs at ha hb
        · exact .inl ⟨_, ha, hb⟩
        · exact .inr ⟨_, _, ha, hb, rfl⟩
      | cons => exact .inr ⟨_, _, parse_of_extra hs hlang, parse_of_extra hs' hlang', rfl⟩

end Locale

end Phrasebook
