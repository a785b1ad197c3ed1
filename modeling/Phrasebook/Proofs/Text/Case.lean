import Mathlib
import Phrasebook.Text.Case

/-! What the case maps cannot produce. A code point that no run and no expansion of a map leads to
is in an image only as its own image. -/

namespace Phrasebook

namespace Unicode.CaseMap

/-- Whether `k` may be the image of another code point. -/
def reaches (m : CaseMap) (k : Nat) : Bool :=
  m.expansions.any (fun e => e.2.contains k) ||
    m.runs.any fun r => decide (r.image ≤ k) && decide (k ≤ r.image + (r.last - r.first))

/-- Whether the map leads to no other code point from `a` on and below `b`. -/
def avoids (m : CaseMap) (a b : Nat) : Bool :=
  m.expansions.all (fun e => e.2.all fun k => decide (k < a) || decide (b ≤ k)) &&
    m.runs.all fun r => decide (r.image + (r.last - r.first) < a) || decide (b ≤ r.image)

theorem reaches_of_avoids {m : CaseMap} {a b k : Nat} (h : m.avoids a b = true) (ha : a ≤ k)
    (hb : k < b) : m.reaches k = false := by
  simp only [avoids, Bool.and_eq_true, List.all_eq_true, Bool.or_eq_true,
    decide_eq_true_eq] at h
  simp only [reaches, Bool.or_eq_false_iff, List.any_eq_false, List.contains_iff_mem,
    Bool.and_eq_true, decide_eq_true_eq]
  constructor
  · intro e he hk
    have houtside := h.1 e he k hk
    omega
  · intro r hr hbetween
    have houtside := h.2 r hr
    omega

/-- Whether all images of code points are code points. -/
def isBounded (m : CaseMap) : Bool :=
  m.expansions.all (fun e => e.2.all fun k => decide (k < 0x110000)) &&
    m.runs.all fun r => decide (r.image + (r.last - r.first) < 0x110000)

theorem alongRuns_cases (rs : List CaseRun) (n : Nat) :
    alongRuns rs n = n ∨ ∃ r ∈ rs, r.image ≤ alongRuns rs n ∧
      alongRuns rs n ≤ r.image + (r.last - r.first) := by
  induction rs with
  | nil => exact .inl rfl
  | cons r rs ih =>
    unfold alongRuns
    split_ifs with hlow hcovers
    · exact .inl rfl
    · right
      refine ⟨r, List.mem_cons_self .., ?_⟩
      simp only [CaseRun.covers, Bool.and_eq_true, decide_eq_true_eq] at hcovers
      unfold CaseRun.apply
      omega
    · rcases ih with h | ⟨r', hr', h⟩
      · exact .inl h
      · exact .inr ⟨r', List.mem_cons_of_mem r hr', h⟩

theorem image_cases {m : CaseMap} {n k : Nat} (h : k ∈ m.image n) :
    k = n ∨ (∃ e ∈ m.expansions, k ∈ e.2) ∨
      ∃ r ∈ m.runs, r.image ≤ k ∧ k ≤ r.image + (r.last - r.first) := by
  unfold image at h
  split at h
  next ns hns =>
    obtain ⟨before, after, he, _⟩ := List.lookup_eq_some_iff.mp hns
    exact .inr (.inl ⟨(n, ns), by simp [he], h⟩)
  next =>
    obtain rfl := List.mem_singleton.mp h
    rcases alongRuns_cases m.runs n with h | h
    · exact .inl h
    · exact .inr (.inr h)

theorem eq_of_mem_image {m : CaseMap} {n k : Nat} (unreached : m.reaches k = false)
    (h : k ∈ m.image n) : k = n := by
  simp only [reaches, Bool.or_eq_false_iff, List.any_eq_false] at unreached
  rcases image_cases h with h | ⟨e, he, hk⟩ | ⟨r, hr, hk⟩
  · exact h
  · exact absurd (List.contains_iff_mem.mpr hk) (unreached.1 e he)
  · exact absurd (by simpa using hk) (unreached.2 r hr)

theorem lt_of_mem_image {m : CaseMap} (bounded : m.isBounded = true) {n k : Nat}
    (hn : n < 0x110000) (h : k ∈ m.image n) : k < 0x110000 := by
  simp only [isBounded, Bool.and_eq_true, List.all_eq_true, decide_eq_true_eq] at bounded
  rcases image_cases h with rfl | ⟨e, he, hk⟩ | ⟨r, hr, _, hk⟩
  · exact hn
  · exact bounded.1 e he k hk
  · exact Nat.lt_of_le_of_lt hk (bounded.2 r hr)

theorem isBounded_lowercase : lowercase.isBounded = true := by
  decide +kernel

theorem isBounded_uppercase : uppercase.isBounded = true := by
  decide +kernel

end Unicode.CaseMap

namespace CodePoint

theorem val_ofNat {n : Nat} (h : n < 0x110000) : (ofNat n).val = n :=
  Nat.mod_eq_of_lt h

/-- Only `d` itself has an image with `d`, if the map leads nothing else there. -/
theorem eq_of_mem_image {m : Unicode.CaseMap} (bounded : m.isBounded = true) {c d : CodePoint}
    (unreached : m.reaches d.val = false) (h : d ∈ (m.image c.val).map ofNat) : d = c := by
  obtain ⟨n, hn, rfl⟩ := List.mem_map.mp h
  have hlt := Unicode.CaseMap.lt_of_mem_image bounded c.isLt hn
  rw [val_ofNat hlt] at unreached
  obtain rfl := Unicode.CaseMap.eq_of_mem_image unreached hn
  cases c with
  | mk k hk => simp [ofNat, Nat.mod_eq_of_lt hk]

theorem eq_of_mem_lower {c d : CodePoint} (unreached : Unicode.lowercase.reaches d.val = false)
    (h : d ∈ c.lower) : d = c :=
  eq_of_mem_image Unicode.CaseMap.isBounded_lowercase unreached h

theorem eq_of_mem_upper {c d : CodePoint} (unreached : Unicode.uppercase.reaches d.val = false)
    (h : d ∈ c.upper) : d = c :=
  eq_of_mem_image Unicode.CaseMap.isBounded_uppercase unreached h

end CodePoint

namespace Text

/-- Whether a lowercase text may have `d` where the text itself has not. The final sigma is not in
the map: only the context leads to it. -/
def lowerReaches (d : CodePoint) : Bool :=
  Unicode.lowercase.reaches d.val || d == CodePoint.ofNat 0x3C2

theorem lowerBetween_cases {done rest : Text} {c d : CodePoint} (h : d ∈ lowerBetween done c rest) :
    d = CodePoint.ofNat 0x3C2 ∨ d = CodePoint.ofNat 0x3C3 ∨ d ∈ c.lower := by
  unfold lowerBetween at h
  split_ifs at h
  · exact .inl (List.mem_singleton.mp h)
  · exact .inr (.inl (List.mem_singleton.mp h))
  · exact .inr (.inr h)

/-- A code point of a lowercase text is a small sigma or stems from one of the text. -/
theorem exists_of_mem_lowerAfter {done t : Text} {d : CodePoint} (h : d ∈ lowerAfter done t) :
    ∃ c ∈ t, d = CodePoint.ofNat 0x3C2 ∨ d = CodePoint.ofNat 0x3C3 ∨ d ∈ c.lower := by
  induction t generalizing done with
  | nil => exact absurd h (by simp [lowerAfter])
  | cons c t ih =>
    rw [lowerAfter, List.mem_append] at h
    rcases h with h | h
    · exact ⟨c, List.mem_cons_self .., lowerBetween_cases h⟩
    · obtain ⟨c', hc', hd⟩ := ih h
      exact ⟨c', List.mem_cons_of_mem c hc', hd⟩

/-- Lowercase brings in no code point that nothing else has in its lowercase. -/
theorem mem_of_mem_lower {d : CodePoint} {t : Text} (unreached : lowerReaches d = false)
    (h : d ∈ t.lower) : d ∈ t := by
  obtain ⟨c, hc, rfl | rfl | hd⟩ := exists_of_mem_lowerAfter h
  · exact absurd unreached (by decide +kernel)
  · exact absurd unreached (by decide +kernel)
  · rwa [CodePoint.eq_of_mem_lower (Bool.or_eq_false_iff.mp unreached).1 hd]

/-- Uppercase brings in no code point that nothing else has in its uppercase. -/
theorem mem_of_mem_upper {d : CodePoint} {t : Text}
    (unreached : Unicode.uppercase.reaches d.val = false) (h : d ∈ t.upper) : d ∈ t := by
  obtain ⟨c, hc, hd⟩ := List.mem_flatMap.mp h
  rwa [CodePoint.eq_of_mem_upper unreached hd]

end Text

end Phrasebook
