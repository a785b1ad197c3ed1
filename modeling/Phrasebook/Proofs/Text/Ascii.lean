import Mathlib
import Phrasebook.ClassPrefix
import Phrasebook.Proofs.Text.Order

/-! Case and character classes on ASCII, read off the Unicode tables once. Inside ASCII a case map
moves one letter at a time, so that lowercase, uppercase and titles become maps over the text. -/

namespace Phrasebook

namespace CodePoint

/-- The letters `A` to `Z`. -/
def isAsciiUpper (c : CodePoint) : Bool :=
  decide (0x41 ≤ c.val) && decide (c.val ≤ 0x5A)

/-- The digits `0` to `9`. -/
def isAsciiDigit (c : CodePoint) : Bool :=
  decide (0x30 ≤ c.val) && decide (c.val ≤ 0x39)

/-- A capital letter or a digit, as region codes have them. -/
def isRegional (c : CodePoint) : Bool :=
  c.isAsciiUpper || c.isAsciiDigit

/-- The letter in lowercase, if it is one of ASCII. -/
def small (c : CodePoint) : CodePoint :=
  if c.isAsciiUpper then ofNat (c.val + 32) else c

/-- The letter in uppercase, if it is one of ASCII. -/
def capital (c : CodePoint) : CodePoint :=
  if c.isAsciiLower then ofNat (c.val - 32) else c

theorem isAscii_iff (c : CodePoint) : c.isAscii = true ↔ c.val < 0x80 := by
  simp [isAscii]

theorem isAsciiLower_iff (c : CodePoint) :
    c.isAsciiLower = true ↔ 0x61 ≤ c.val ∧ c.val ≤ 0x7A := by
  simp [isAsciiLower]

theorem isAsciiUpper_iff (c : CodePoint) :
    c.isAsciiUpper = true ↔ 0x41 ≤ c.val ∧ c.val ≤ 0x5A := by
  simp [isAsciiUpper]

theorem isAsciiDigit_iff (c : CodePoint) :
    c.isAsciiDigit = true ↔ 0x30 ≤ c.val ∧ c.val ≤ 0x39 := by
  simp [isAsciiDigit]

theorem isRegional_iff (c : CodePoint) : c.isRegional = true ↔
    (0x41 ≤ c.val ∧ c.val ≤ 0x5A) ∨ (0x30 ≤ c.val ∧ c.val ≤ 0x39) := by
  simp only [isRegional, Bool.or_eq_true, isAsciiUpper_iff, isAsciiDigit_iff]

theorem val_small (c : CodePoint) :
    c.small.val = if 0x41 ≤ c.val ∧ c.val ≤ 0x5A then c.val + 32 else c.val := by
  by_cases h : 0x41 ≤ c.val ∧ c.val ≤ 0x5A
  · rw [small, if_pos ((isAsciiUpper_iff c).mpr h), if_pos h]
    exact Nat.mod_eq_of_lt (by omega)
  · rw [small, if_neg (mt (isAsciiUpper_iff c).mp h), if_neg h]

theorem val_capital (c : CodePoint) :
    c.capital.val = if 0x61 ≤ c.val ∧ c.val ≤ 0x7A then c.val - 32 else c.val := by
  by_cases h : 0x61 ≤ c.val ∧ c.val ≤ 0x7A
  · rw [capital, if_pos ((isAsciiLower_iff c).mpr h), if_pos h]
    exact Nat.mod_eq_of_lt (by omega)
  · rw [capital, if_neg (mt (isAsciiLower_iff c).mp h), if_neg h]

private theorem lowercase_image : ∀ n < 0x80,
    Unicode.lowercase.image n = [if 0x41 ≤ n ∧ n ≤ 0x5A then n + 32 else n] := by
  decide +kernel

private theorem uppercase_image : ∀ n < 0x80,
    Unicode.uppercase.image n = [if 0x61 ≤ n ∧ n ≤ 0x7A then n - 32 else n] := by
  decide +kernel

theorem ofNat_eq {c : CodePoint} {n : Nat} (h : c.val = n) : ofNat n = c := by
  apply val_injective
  simp only [ofNat, ← h]
  exact Nat.mod_eq_of_lt c.isLt

theorem lower_eq {c : CodePoint} (h : c.isAscii = true) : c.lower = [c.small] := by
  rw [lower, lowercase_image c.val ((isAscii_iff c).mp h), List.map_singleton,
    ofNat_eq (val_small c)]

theorem upper_eq {c : CodePoint} (h : c.isAscii = true) : c.upper = [c.capital] := by
  rw [upper, uppercase_image c.val ((isAscii_iff c).mp h), List.map_singleton,
    ofNat_eq (val_capital c)]

theorem isAscii_of_isAsciiLower {c : CodePoint} (h : c.isAsciiLower = true) :
    c.isAscii = true := by
  rw [isAsciiLower_iff] at h
  rw [isAscii_iff]
  omega

theorem small_of_isAsciiLower {c : CodePoint} (h : c.isAsciiLower = true) : c.small = c := by
  rw [isAsciiLower_iff] at h
  apply val_injective
  rw [val_small, if_neg (by omega)]

end CodePoint

namespace Text

theorem lowerAfter_eq_map (done t : Text) (h : ∀ c ∈ t, c.isAscii = true) :
    lowerAfter done t = t.map CodePoint.small := by
  induction t generalizing done with
  | nil => rfl
  | cons c t ih =>
    have hc : c.isAscii = true := h c (List.mem_cons_self ..)
    have hsigma : c ≠ capitalSigma := by
      rintro rfl
      exact absurd hc (by decide)
    rw [lowerAfter, lowerBetween, if_neg hsigma, CodePoint.lower_eq hc,
      ih (c :: done) fun d hd => h d (List.mem_cons_of_mem c hd)]
    rfl

theorem lower_eq_map {t : Text} (h : ∀ c ∈ t, c.isAscii = true) :
    t.lower = t.map CodePoint.small :=
  lowerAfter_eq_map [] t h

theorem upper_eq_map {t : Text} (h : ∀ c ∈ t, c.isAscii = true) :
    t.upper = t.map CodePoint.capital := by
  induction t with
  | nil => rfl
  | cons c t ih =>
    have hc : c.isAscii = true := h c (List.mem_cons_self ..)
    have ht : upper t = t.map CodePoint.capital :=
      ih fun d hd => h d (List.mem_cons_of_mem c hd)
    rw [upper] at ht ⊢
    rw [List.flatMap_cons, CodePoint.upper_eq hc, ht]
    rfl

/-- The title of an ASCII text: the first letter is capital, the others are small. -/
theorem titled_cons {c : CodePoint} {t : Text} (hc : c.isAscii = true)
    (ht : ∀ d ∈ t, d.isAscii = true) : titled (c :: t) = c.capital :: t.map CodePoint.small := by
  have hupper : upper [c] = [c.capital] := by
    apply upper_eq_map
    simpa using hc
  show upper [c] ++ lower t = _
  rw [hupper, lower_eq_map ht]
  rfl

end Text

end Phrasebook
