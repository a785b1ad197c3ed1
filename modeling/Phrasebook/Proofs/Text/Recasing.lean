import Mathlib
import Phrasebook.Locale.Code
import Phrasebook.Proofs.Text.Ascii
import Phrasebook.Proofs.Text.Cut
import Phrasebook.Proofs.Unicode.Settled

/-! Texts in another case. A second pass changes nothing, no blank comes to the ends of a text, and
the case that ASCII letters had before makes no difference. -/

namespace Phrasebook

namespace CodePoint

theorem image_eq_singleton {m : Unicode.CaseMap} (bounded : m.isBounded = true)
    (settled : m.isSettled = true) {c d : CodePoint} (h : d ∈ (m.image c.val).map ofNat) :
    (m.image d.val).map ofNat = [d] := by
  obtain ⟨n, hn, rfl⟩ := List.mem_map.mp h
  have hlt : n < 0x110000 := Unicode.CaseMap.lt_of_mem_image bounded c.isLt hn
  rw [val_ofNat hlt, Unicode.CaseMap.image_of_mem_image settled hn]
  rfl

theorem lower_of_mem_lower {c d : CodePoint} (h : d ∈ c.lower) : d.lower = [d] :=
  image_eq_singleton Unicode.CaseMap.isBounded_lowercase Unicode.CaseMap.isSettled_lowercase h

theorem upper_of_mem_upper {c d : CodePoint} (h : d ∈ c.upper) : d.upper = [d] :=
  image_eq_singleton Unicode.CaseMap.isBounded_uppercase Unicode.CaseMap.isSettled_uppercase h

end CodePoint

namespace Text

/-! ### A second pass -/

/-- What the lowercase of a text holds is its own lowercase, and no capital sigma. -/
theorem lower_of_mem_lowerAfter {done t : Text} {d : CodePoint} (h : d ∈ lowerAfter done t) :
    d.lower = [d] ∧ d ≠ capitalSigma := by
  have hsigma : capitalSigma.lower ≠ [capitalSigma] := by decide +kernel
  have hsmall : (CodePoint.ofNat 0x3C2).lower = [CodePoint.ofNat 0x3C2] ∧
      (CodePoint.ofNat 0x3C3).lower = [CodePoint.ofNat 0x3C3] := by
    decide +kernel
  have hlower : d.lower = [d] := by
    obtain ⟨c, _, rfl | rfl | hd⟩ := exists_of_mem_lowerAfter h
    · exact hsmall.1
    · exact hsmall.2
    · exact CodePoint.lower_of_mem_lower hd
  refine ⟨hlower, ?_⟩
  rintro rfl
  exact hsigma hlower

theorem lowerAfter_of_settled (done : Text) {t : Text}
    (h : ∀ d ∈ t, d.lower = [d] ∧ d ≠ capitalSigma) : lowerAfter done t = t := by
  induction t generalizing done with
  | nil => rfl
  | cons d t ih =>
    rw [List.forall_mem_cons] at h
    rw [lowerAfter, lowerBetween, if_neg h.1.2, h.1.1, ih (d :: done) h.2]
    rfl

@[simp] theorem lower_lower (t : Text) : t.lower.lower = t.lower :=
  lowerAfter_of_settled [] fun _ h => lower_of_mem_lowerAfter h

@[simp] theorem upper_upper (t : Text) : t.upper.upper = t.upper := by
  have hsettled : ∀ d ∈ t.upper, d.upper = [d] := by
    intro d hd
    obtain ⟨c, _, hc⟩ := List.mem_flatMap.mp hd
    exact CodePoint.upper_of_mem_upper hc
  rw [upper, List.flatMap_congr hsettled]
  exact List.flatMap_singleton' _

/-! ### Blank ends -/

/-- A text in place of a code point: there is something, and it is blank only where the code point
is. -/
structure IsImage (c : CodePoint) (image : Text) : Prop where
  nonempty : image ≠ []
  blank : ∀ d ∈ image, d.isBlank = true → c.isBlank = true

/-- `u` has a text in place of each code point of `t`. -/
def Recased (t u : Text) : Prop :=
  ∃ images, List.Forall₂ IsImage t images ∧ u = images.flatten

namespace Recased

variable {t t' u u' : Text}

theorem map {f : CodePoint → CodePoint} (h : ∀ c, (f c).isBlank = true → c.isBlank = true)
    (t : Text) : Recased t (t.map f) := by
  refine ⟨t.map fun c => [f c], ?_, by rw [← List.flatMap_def, List.map_eq_flatMap]⟩
  rw [List.forall₂_map_right_iff, List.forall₂_same]
  intro c _
  exact ⟨by simp, by simpa using h c⟩

theorem refl (t : Text) : Recased t t := by
  simpa using map (f := id) (fun _ h => h) t

theorem append (h : Recased t u) (h' : Recased t' u') : Recased (t ++ t') (u ++ u') := by
  obtain ⟨images, himages, rfl⟩ := h
  obtain ⟨images', himages', rfl⟩ := h'
  exact ⟨images ++ images', List.rel_append himages himages', by simp⟩

theorem reverse (h : Recased t u) : Recased t.reverse u.reverse := by
  obtain ⟨images, himages, rfl⟩ := h
  refine ⟨(images.map List.reverse).reverse, ?_, List.reverse_flatten⟩
  rw [List.forall₂_reverse_iff, List.forall₂_map_right_iff]
  exact himages.imp fun c image h => ⟨by simpa using h.nonempty, by simpa using h.blank⟩

theorem joined {mark : Text} {parts parts' : List Text}
    (h : List.Forall₂ Recased parts parts') :
    Recased (Text.joined mark parts) (Text.joined mark parts') := by
  induction h with
  | nil => exact refl _
  | @cons part part' parts parts' hpart hparts ih =>
    cases hparts with
    | nil => simpa [Text.joined] using hpart
    | cons =>
      rw [joined_cons (List.cons_ne_nil _ _), joined_cons (List.cons_ne_nil _ _)]
      exact (hpart.append (refl mark)).append ih

theorem endsRun (h : Recased t u) (ht : EndsRun CodePoint.isBlank t) :
    EndsRun CodePoint.isBlank u := by
  obtain ⟨images, himages, rfl⟩ := h
  cases himages with
  | nil => exact endsRun_nil
  | @cons c image t images himage _ =>
    obtain ⟨d, rest, rfl⟩ := List.exists_cons_of_ne_nil himage.nonempty
    rw [endsRun_cons] at ht
    rw [List.flatten_cons, List.cons_append, endsRun_cons, ← Bool.not_eq_true]
    intro hd
    exact absurd (himage.blank d (List.mem_cons_self ..) hd) (by simp [ht])

/-- With bare ends a text keeps them. -/
theorem isBare (h : Recased t u) (ht : IsBare CodePoint.isBlank t) :
    IsBare CodePoint.isBlank u :=
  ⟨h.endsRun ht.front, h.reverse.endsRun ht.back⟩

end Recased

theorem isImage_upper (c : CodePoint) : IsImage c c.upper where
  nonempty := by
    rw [CodePoint.upper, ne_eq, List.map_eq_nil_iff]
    exact Unicode.CaseMap.image_ne_nil (by decide +kernel) c.val
  blank d hd hblank := by
    rwa [← CodePoint.eq_of_mem_upper (Unicode.unreached_of_blank hblank).2.1 hd]

theorem isImage_lowerBetween (done : Text) (c : CodePoint) (rest : Text) :
    IsImage c (lowerBetween done c rest) where
  nonempty := by
    have hlower : c.lower ≠ [] := by
      rw [CodePoint.lower, ne_eq, List.map_eq_nil_iff]
      exact Unicode.CaseMap.image_ne_nil (by decide +kernel) c.val
    unfold lowerBetween
    split_ifs
    · exact List.cons_ne_nil _ _
    · exact List.cons_ne_nil _ _
    · exact hlower
  blank d hd hblank := by
    rcases lowerBetween_cases hd with rfl | rfl | hd
    · exact absurd hblank (by decide)
    · exact absurd hblank (by decide)
    · rwa [← CodePoint.eq_of_mem_lower (Unicode.unreached_of_blank hblank).1 hd]

theorem recased_upper (t : Text) : Recased t t.upper := by
  refine ⟨t.map CodePoint.upper, ?_, List.flatMap_def⟩
  rw [List.forall₂_map_right_iff, List.forall₂_same]
  exact fun c _ => isImage_upper c

theorem recased_lowerAfter (done t : Text) : Recased t (lowerAfter done t) := by
  induction t generalizing done with
  | nil => exact .refl []
  | cons c t ih =>
    obtain ⟨images, himages, hflatten⟩ := ih (c :: done)
    refine ⟨lowerBetween done c t :: images, .cons (isImage_lowerBetween done c t) himages, ?_⟩
    rw [lowerAfter, hflatten, List.flatten_cons]

theorem recased_lower (t : Text) : Recased t t.lower :=
  recased_lowerAfter [] t

end Text

/-! ### The case of ASCII letters -/

namespace CodePoint

theorem holds_small {p : Unicode.Property}
    (h : ∀ n < 0x80, p.holds (if 0x41 ≤ n ∧ n ≤ 0x5A then n + 32 else n) = p.holds n)
    (c : CodePoint) : p.holds c.small.val = p.holds c.val := by
  rw [val_small]
  by_cases hc : c.val < 0x80
  · exact h c.val hc
  · rw [if_neg (by omega)]

theorem isBlank_small (c : CodePoint) : c.small.isBlank = c.isBlank :=
  holds_small (by decide +kernel) c

theorem isCased_small (c : CodePoint) : c.small.isCased = c.isCased :=
  holds_small (by decide +kernel) c

theorem isCaseIgnorable_small (c : CodePoint) : c.small.isCaseIgnorable = c.isCaseIgnorable :=
  holds_small (by decide +kernel) c

theorem small_of_not_isAscii {c : CodePoint} (h : c.isAscii = false) : c.small = c := by
  rw [← Bool.not_eq_true, isAscii_iff] at h
  apply val_injective
  rw [val_small, if_neg (by omega)]

theorem isAscii_small {c : CodePoint} (h : c.isAscii = true) : c.small.isAscii = true := by
  rw [isAscii_iff] at h ⊢
  rw [val_small]
  split_ifs <;> omega

theorem small_small (c : CodePoint) : c.small.small = c.small := by
  apply val_injective
  rw [val_small, val_small]
  split_ifs <;> omega

theorem capital_of_small (c : CodePoint) : c.small.capital = c.capital := by
  apply val_injective
  rw [val_capital, val_capital, val_small]
  split_ifs <;> omega

theorem lower_small (c : CodePoint) : c.small.lower = c.lower := by
  cases h : c.isAscii with
  | true => rw [lower_eq (isAscii_small h), lower_eq h, small_small]
  | false => rw [small_of_not_isAscii h]

theorem upper_small (c : CodePoint) : c.small.upper = c.upper := by
  cases h : c.isAscii with
  | true => rw [upper_eq (isAscii_small h), upper_eq h, capital_of_small]
  | false => rw [small_of_not_isAscii h]

end CodePoint

namespace Text

/-- The text with small letters for the capitals of ASCII. -/
def small (t : Text) : Text :=
  t.map CodePoint.small

theorem meetsCased_small (t : Text) : meetsCased t.small = meetsCased t := by
  have hdrop : t.small.dropWhile CodePoint.isCaseIgnorable =
      (t.dropWhile CodePoint.isCaseIgnorable).map CodePoint.small := by
    rw [small, List.dropWhile_map]
    congr 2
    exact funext CodePoint.isCaseIgnorable_small
  rw [meetsCased, meetsCased, hdrop]
  cases t.dropWhile CodePoint.isCaseIgnorable with
  | nil => rfl
  | cons c rest => exact CodePoint.isCased_small c

theorem lowerBetween_small (done : Text) (c : CodePoint) (rest : Text) :
    lowerBetween done.small c.small rest.small = lowerBetween done c rest := by
  have hsigma : c.small = capitalSigma ↔ c = capitalSigma := by
    cases h : c.isAscii with
    | true =>
      have hne : ∀ {d : CodePoint}, d.isAscii = true → d ≠ capitalSigma := by
        rintro d hd rfl
        exact absurd hd (by decide)
      exact iff_of_false (hne (CodePoint.isAscii_small h)) (hne h)
    | false => rw [CodePoint.small_of_not_isAscii h]
  simp only [lowerBetween, meetsCased_small, CodePoint.lower_small, hsigma]

theorem lowerAfter_small (done t : Text) :
    lowerAfter done.small t.small = lowerAfter done t := by
  induction t generalizing done with
  | nil => rfl
  | cons c t ih =>
    show lowerBetween done.small c.small (small t) ++ lowerAfter (small (c :: done)) (small t) = _
    rw [lowerBetween_small, ih, lowerAfter]

theorem lower_small (t : Text) : t.small.lower = t.lower :=
  lowerAfter_small [] t

theorem upper_small (t : Text) : t.small.upper = t.upper := by
  rw [upper, small, List.flatMap_map]
  exact List.flatMap_congr fun c _ => CodePoint.upper_small c

end Text

end Phrasebook
