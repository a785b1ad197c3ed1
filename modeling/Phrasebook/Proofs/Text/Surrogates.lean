import Mathlib
import Phrasebook.Identifier
import Phrasebook.Proofs.Text.Case
import Phrasebook.Proofs.Text.Encodable

/-! Where surrogates cannot come from. No case map leads to one, so a text that can be encoded still
can in another case; and none may stand in a name, so every identifier can be encoded. -/

namespace Phrasebook

namespace Unicode.CaseMap

theorem lowercase_avoids_surrogates : lowercase.avoids 0xD800 0xE000 = true := by
  decide +kernel

theorem uppercase_avoids_surrogates : uppercase.avoids 0xD800 0xE000 = true := by
  decide +kernel

end Unicode.CaseMap

namespace CodePoint

variable {c : CodePoint}

theorem reaches_of_isSurrogate {m : Unicode.CaseMap} (havoids : m.avoids 0xD800 0xE000 = true)
    (h : c.isSurrogate = true) : m.reaches c.val = false := by
  obtain ⟨hfirst, hlast⟩ := (isSurrogate_iff c).mp h
  exact Unicode.CaseMap.reaches_of_avoids havoids hfirst hlast

theorem lowerReaches_of_isSurrogate (h : c.isSurrogate = true) : Text.lowerReaches c = false := by
  have hsigma : c ≠ ofNat 0x3C2 := by
    rintro rfl
    exact absurd h (by decide)
  rw [Text.lowerReaches,
    reaches_of_isSurrogate Unicode.CaseMap.lowercase_avoids_surrogates h, Bool.false_or]
  simpa using hsigma

theorem not_isSurrogate_of_isStart (h : Identifier.isStart c = true) :
    c.isSurrogate = false := by
  rw [← Bool.not_eq_true]
  intro hsurrogate
  rcases Bool.or_eq_true_iff.mp h with hunderscore | hstart
  · obtain rfl := eq_of_beq hunderscore
    exact absurd hsurrogate (by decide)
  · rw [Unicode.Property.holds_of_isSurrogate (by decide +kernel) hsurrogate] at hstart
    exact absurd hstart (by decide +kernel)

theorem not_isSurrogate_of_isContinue (h : Identifier.isContinue c = true) :
    c.isSurrogate = false := by
  rw [← Bool.not_eq_true]
  intro hsurrogate
  rw [Identifier.isContinue,
    Unicode.Property.holds_of_isSurrogate (by decide +kernel) hsurrogate] at h
  exact absurd h (by decide +kernel)

end CodePoint

namespace Text.IsEncodable

variable {t : Text}

theorem lower (h : t.IsEncodable) : t.lower.IsEncodable := by
  intro c hc
  rw [← Bool.not_eq_true]
  intro hsurrogate
  have hmem := mem_of_mem_lower (CodePoint.lowerReaches_of_isSurrogate hsurrogate) hc
  exact absurd hsurrogate (by simp [h c hmem])

theorem upper (h : t.IsEncodable) : t.upper.IsEncodable := by
  intro c hc
  rw [← Bool.not_eq_true]
  intro hsurrogate
  have hunreached := CodePoint.reaches_of_isSurrogate
    Unicode.CaseMap.uppercase_avoids_surrogates hsurrogate
  exact absurd hsurrogate (by simp [h c (mem_of_mem_upper hunreached hc)])

theorem titled (h : t.IsEncodable) : t.titled.IsEncodable := by
  have htake : IsEncodable (t.take 1) := fun c hc => h c (List.mem_of_mem_take hc)
  have hdrop : IsEncodable (t.drop 1) := fun c hc => h c (List.mem_of_mem_drop hc)
  exact isEncodable_append.mpr ⟨htake.upper, hdrop.lower⟩

end Text.IsEncodable

namespace Identifier

/-- Whatever escapes a phrase file is written with, its keys hold no surrogates once they are
identifiers. -/
theorem isEncodable_of_isIdentifier {t : Text} (h : isIdentifier t = true) : t.IsEncodable := by
  cases t with
  | nil => exact Text.isEncodable_nil
  | cons first t =>
    simp only [isIdentifier, Bool.and_eq_true, List.all_eq_true] at h
    rw [Text.isEncodable_cons]
    exact ⟨CodePoint.not_isSurrogate_of_isStart h.1,
      fun c hc => CodePoint.not_isSurrogate_of_isContinue (h.2 c hc)⟩

theorem isEncodable_of_isAccessor {key : Text} (h : isAccessor key = true) :
    key.IsEncodable := by
  simp only [isAccessor, Bool.and_eq_true] at h
  exact isEncodable_of_isIdentifier h.1.1.1.1

theorem isEncodable_of_isClassPrefix {token : Text} (h : isClassPrefix token = true) :
    token.IsEncodable := by
  simp only [isClassPrefix, Bool.and_eq_true] at h
  exact isEncodable_of_isIdentifier h.1.1.2

end Identifier

end Phrasebook
