import Mathlib
import Phrasebook.Failure.Report
import Phrasebook.Locale.Code
import Phrasebook.Locale.Display
import Phrasebook.Proofs.Text.Ascii
import Phrasebook.Proofs.Text.Case
import Phrasebook.Proofs.Text.Cut

/-! Parsed locale codes. The tables decide what is accepted; the language of a parsed locale holds
no separator, so that its canonical form determines the locale; and plain tables give plain
locales. -/

namespace Phrasebook

/-- Whether a code is that of a region in ASCII: capital letters and digits. -/
def isPlainRegion (code : Text) : Bool :=
  code != [] && code.all CodePoint.isRegional

/-- Language codes in small and region codes in capital ASCII letters, the latter with digits. -/
structure Locale.IsPlain (l : Locale) : Prop where
  language : isPlainLanguage l.language = true
  region : ∀ code, l.region = some code → isPlainRegion code = true

/-- Tables that list plain codes only. -/
structure Reference.IsPlain (r : Reference) : Prop where
  languages : ∀ entry ∈ r.languages, isPlainLanguage entry.1 = true
  regions : ∀ entry ∈ r.regions, isPlainRegion entry.1 = true

theorem isPlainLanguage_iff (code : Text) : isPlainLanguage code = true ↔
    code ≠ [] ∧ ∀ c ∈ code, c.isAsciiLower = true := by
  simp [isPlainLanguage]

theorem isPlainRegion_iff (code : Text) : isPlainRegion code = true ↔
    code ≠ [] ∧ ∀ c ∈ code, c.isRegional = true := by
  simp [isPlainRegion]

namespace Reference

theorem mem_of_lookup_isSome {table : List (Text × Text)} {code : Text}
    (h : (table.lookup code).isSome = true) : ∃ entry ∈ table, entry.1 = code := by
  obtain ⟨entry, hentry, hcode⟩ := List.lookup_isSome_iff.mp h
  exact ⟨entry, hentry, (eq_of_beq hcode).symm⟩

theorem IsPlain.of_hasLanguage {r : Reference} (plain : r.IsPlain) {code : Text}
    (h : r.hasLanguage code = true) : isPlainLanguage code = true := by
  obtain ⟨entry, hentry, rfl⟩ := mem_of_lookup_isSome h
  exact plain.languages entry hentry

theorem IsPlain.of_hasRegion {r : Reference} (plain : r.IsPlain) {code : Text}
    (h : r.hasRegion code = true) : isPlainRegion code = true := by
  obtain ⟨entry, hentry, rfl⟩ := mem_of_lookup_isSome h
  exact plain.regions entry hentry

end Reference

namespace Locale

variable {r : Reference} {code : Text} {l : Locale}

/-- An accepted code has one known subtag for a language, or a second one for a region. -/
theorem parse_cases (h : parse r code = .ok l) :
    (∃ tag, subtags code = [tag] ∧ r.hasLanguage tag.lower = true ∧ l = ⟨tag.lower, none⟩) ∨
    ∃ tag sub, subtags code = [tag, sub] ∧ r.hasLanguage tag.lower = true ∧
      r.hasRegion sub.upper = true ∧ l = ⟨tag.lower, some sub.upper⟩ := by
  unfold parse at h
  split at h
  next => exact absurd h (by simp)
  next tag rest hs =>
    cases hlang : r.hasLanguage tag.lower with
    | false => exact absurd h (by simp [hlang])
    | true =>
      simp only [hlang, Bool.not_true, Bool.false_eq_true, ↓reduceIte] at h
      split at h
      next =>
        left
        exact ⟨tag, hs, hlang, (Except.ok.inj h).symm⟩
      next sub =>
        cases hregion : r.hasRegion sub.upper with
        | false => exact absurd h (by simp [hregion])
        | true =>
          simp only [hregion, Bool.not_true, Bool.false_eq_true, ↓reduceIte] at h
          right
          exact ⟨tag, sub, hs, hlang, hregion, (Except.ok.inj h).symm⟩
      next => exact absurd h (by simp)

/-- A refused code has a fault of its language or of its region. -/
theorem parse_error_kind {f : Failure} (h : parse r code = .error f) :
    f.kind = .invalidLanguage ∨ f.kind = .invalidRegion := by
  unfold parse at h
  split at h
  next =>
    obtain rfl := Except.error.inj h
    exact .inl rfl
  next tag rest hs =>
    dsimp only at h
    split_ifs at h with hlang
    · obtain rfl := Except.error.inj h
      exact .inl rfl
    · split at h
      next => exact absurd h (by simp)
      next sub =>
        split_ifs at h with hregion
        obtain rfl := Except.error.inj h
        exact .inr rfl
      next =>
        obtain rfl := Except.error.inj h
        exact .inr rfl

/-- No letter becomes a separator in another case. -/
theorem unreached_of_isSeparator {c : CodePoint} (h : isSeparator c = true) :
    Text.lowerReaches c = false ∧ Unicode.uppercase.reaches c.val = false := by
  rcases Bool.or_eq_true_iff.mp h with h | h
  · obtain rfl := eq_of_beq h
    decide +kernel
  · obtain rfl := eq_of_beq h
    decide +kernel

theorem not_separator_of_mem_lower {t : Text} (h : ∀ c ∈ t, isSeparator c = false) :
    ∀ c ∈ t.lower, isSeparator c = false := by
  intro c hc
  by_contra hsep
  rw [Bool.not_eq_false] at hsep
  have ht : c ∈ t := Text.mem_of_mem_lower (unreached_of_isSeparator hsep).1 hc
  exact absurd hsep (by simp [h c ht])

theorem not_separator_of_mem_upper {t : Text} (h : ∀ c ∈ t, isSeparator c = false) :
    ∀ c ∈ t.upper, isSeparator c = false := by
  intro c hc
  by_contra hsep
  rw [Bool.not_eq_false] at hsep
  have ht : c ∈ t := Text.mem_of_mem_upper (unreached_of_isSeparator hsep).2 hc
  exact absurd hsep (by simp [h c ht])

theorem separator_notMem_lower {t : Text} (h : ∀ c ∈ t, isSeparator c = false) :
    separator ∉ t.lower := by
  intro hm
  exact absurd (not_separator_of_mem_lower h separator hm) (by decide)

theorem separator_notMem_upper {t : Text} (h : ∀ c ∈ t, isSeparator c = false) :
    separator ∉ t.upper := by
  intro hm
  exact absurd (not_separator_of_mem_upper h separator hm) (by decide)

theorem not_separator_of_mem_subtags {tag : Text} (h : tag ∈ subtags code) :
    ∀ c ∈ tag, isSeparator c = false :=
  Text.not_mark_of_mem_splitWhere h

/-- The language of a parsed locale holds no separator. -/
theorem separator_notMem_language (h : parse r code = .ok l) : separator ∉ l.language := by
  rcases parse_cases h with ⟨tag, hs, _, rfl⟩ | ⟨tag, sub, hs, _, _, rfl⟩
  · exact separator_notMem_lower (not_separator_of_mem_subtags (hs ▸ List.mem_cons_self ..))
  · exact separator_notMem_lower (not_separator_of_mem_subtags (hs ▸ List.mem_cons_self ..))

/-- Neither does its region. -/
theorem separator_notMem_region (h : parse r code = .ok l) {region : Text}
    (hregion : l.region = some region) : separator ∉ region := by
  rcases parse_cases h with ⟨tag, _, _, rfl⟩ | ⟨tag, sub, hs, _, _, rfl⟩
  · exact absurd hregion (by simp)
  · obtain rfl := Option.some.inj hregion
    have hsub : sub ∈ subtags code := by simp [hs]
    exact separator_notMem_upper (not_separator_of_mem_subtags hsub)

theorem hasRegion_of_parse (h : parse r code = .ok l) {region : Text}
    (hregion : l.region = some region) : r.hasRegion region = true := by
  rcases parse_cases h with ⟨tag, _, _, rfl⟩ | ⟨tag, sub, _, _, hknown, rfl⟩
  · exact absurd hregion (by simp)
  · obtain rfl := Option.some.inj hregion
    exact hknown

/-- What no letter becomes in lowercase can be in a language only if it is in the code. -/
theorem mem_of_mem_language {c : CodePoint} (unreached : Text.lowerReaches c = false)
    (h : parse r code = .ok l) (hc : c ∈ l.language) : c ∈ code := by
  have hcode {tag : Text} (htag : tag ∈ subtags code) (hc : c ∈ tag.lower) : c ∈ code :=
    Text.mem_of_mem_trim (Text.mem_of_mem_splitWhere htag (Text.mem_of_mem_lower unreached hc))
  rcases parse_cases h with ⟨tag, hs, _, rfl⟩ | ⟨tag, sub, hs, _, _, rfl⟩
  · exact hcode (hs ▸ List.mem_cons_self ..) hc
  · exact hcode (hs ▸ List.mem_cons_self ..) hc

/-- What a canonical form has behind the language. -/
def tail (l : Locale) : Text :=
  match l.region with
  | none => []
  | some region => separator :: region

theorem canonical_eq (l : Locale) : l.canonical = l.language ++ l.tail := by
  unfold canonical tail
  cases l.region with
  | none => simp
  | some region => rfl

/-- Where no language holds a separator, the canonical form determines the locale. -/
theorem canonical_inj {a b : Locale} (ha : separator ∉ a.language) (hb : separator ∉ b.language)
    (h : a.canonical = b.canonical) : a = b := by
  have hrun {l : Locale} (hl : separator ∉ l.language) :
      ∀ c ∈ l.language, (c != separator) = true := by
    intro c hc
    rw [bne_iff_ne]
    rintro rfl
    exact hl hc
  have htail (l : Locale) : Text.EndsRun (· != separator) l.tail := by
    unfold tail
    cases l.region <;> simp
  rw [canonical_eq, canonical_eq] at h
  obtain ⟨hlang, hrest⟩ := Text.run_append_inj (hrun ha) (hrun hb) (htail a) (htail b) h
  obtain ⟨language, region⟩ := a
  obtain ⟨language', region'⟩ := b
  cases region <;> cases region' <;> simp_all [tail]

/-- Plain tables give plain locales. -/
theorem isPlain_of_parse (plain : r.IsPlain) (h : parse r code = .ok l) : l.IsPlain := by
  rcases parse_cases h with ⟨tag, _, hlang, rfl⟩ | ⟨tag, sub, _, hlang, hregion, rfl⟩
  · exact ⟨plain.of_hasLanguage hlang, by simp⟩
  · refine ⟨plain.of_hasLanguage hlang, ?_⟩
    rintro region ⟨⟩
    exact plain.of_hasRegion hregion

theorem default_language (h : l.isDefault = true) : default l.language = l := by
  obtain ⟨language, region⟩ := l
  obtain rfl : region = none := Option.isNone_iff_eq_none.mp h
  rfl

theorem IsPlain.region_ne_nil (h : l.IsPlain) : l.region ≠ some [] := by
  intro hr
  exact absurd (h.region [] hr) (by decide)

end Locale

end Phrasebook
