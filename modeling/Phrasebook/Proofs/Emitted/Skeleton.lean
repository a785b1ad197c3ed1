import Mathlib
import Phrasebook.Emitted.Skeleton
import Phrasebook.Proofs.Outcome

/-! Filled skeletons. Where the texts are optional or given by label, the outcome is the filled
skeleton if there is a text for every slot of it, and otherwise the first slot without. -/

namespace Phrasebook.Skeleton

variable {σ : Type} {k : Skeleton σ} {s : σ} {t : Text}

/-! ### What a filled skeleton holds -/

section Filled

variable {content content' : σ → Text}

@[simp] theorem fill_nil : fill content [] = [] := rfl

@[simp] theorem fill_fixed (t : Text) : fill content (.fixed t :: k) = t ++ fill content k := rfl

@[simp] theorem fill_slot (s : σ) : fill content (.slot s :: k) = content s ++ fill content k := rfl

theorem fill_append (k k' : Skeleton σ) :
    fill content (k ++ k') = fill content k ++ fill content k' :=
  List.flatMap_append

/-- What is filled in depends on the slots that there are. -/
theorem fill_congr (h : ∀ s, .slot s ∈ k → content s = content' s) :
    fill content k = fill content' k := by
  apply List.flatMap_congr
  intro piece hpiece
  cases piece with
  | fixed t => rfl
  | slot s => exact h s hpiece

/-- What is put into a slot that stands in one place is found there, between fixed texts. -/
theorem fill_slot_between {k' : Skeleton σ} (hk : .slot s ∉ k) (hk' : .slot s ∉ k')
    (hother : ∀ s', s' ≠ s → content s' = content' s') :
    fill content (k ++ .slot s :: k') = fill content' k ++ content s ++ fill content' k' := by
  have hwithout {k : Skeleton σ} (hk : .slot s ∉ k) : fill content k = fill content' k := by
    apply fill_congr
    rintro s' hs'
    apply hother
    rintro rfl
    exact hk hs'
  rw [fill_append, fill_slot, hwithout hk, hwithout hk', List.append_assoc]

end Filled

/-! ### Texts that may be missing -/

section Given

variable {given : σ → Option Text}

/-- A piece is open if it is a slot for which there is no text. -/
def IsOpen (given : σ → Option Text) (piece : Piece σ) : Prop :=
  ∃ s, piece = .slot s ∧ given s = none

@[simp] theorem not_isOpen_fixed : ¬IsOpen given (.fixed t) := by
  simp [IsOpen]

@[simp] theorem isOpen_slot : IsOpen given (.slot s) ↔ given s = none := by
  simp [IsOpen]

/-- With a text for every slot, the skeleton is filled with these texts. -/
theorem fill?_eq_ok {content : σ → Text} (h : ∀ s, .slot s ∈ k → given s = some (content s)) :
    fill? given k = .ok (fill content k) := by
  induction k with
  | nil => rfl
  | cons piece k ih =>
    have hrest := ih fun s hs => h s (List.mem_cons_of_mem piece hs)
    cases piece with
    | fixed t => simp [fill?, hrest, Except.map]
    | slot s => simp [fill?, hrest, h s (List.mem_cons_self ..), Except.map]

/-- Filling stops at the first slot for which there is no text. -/
theorem fill?_eq_error_iff : fill? given k = .error s ↔ IsFirst (IsOpen given) k (.slot s) := by
  induction k with
  | nil =>
    constructor
    · intro h
      exact absurd h (by simp [fill?])
    · intro h
      exact absurd h.mem (by simp)
  | cons piece k ih =>
    rw [isFirst_cons]
    cases piece with
    | fixed t =>
      rw [← ih, fill?]
      cases fill? given k <;> simp [Except.map]
    | slot s' =>
      rw [← ih, fill?, isOpen_slot]
      cases given s' with
      | none => simp [eq_comm]
      | some t => cases fill? given k <;> simp [Except.map]

/-- A skeleton is filled exactly if there is a text for every slot of it. -/
theorem fill?_eq_ok_iff : fill? given k = .ok t ↔
    ∃ content, (∀ s, .slot s ∈ k → given s = some (content s)) ∧ t = fill content k := by
  constructor
  · intro h
    have hgiven (s : σ) (hs : .slot s ∈ k) : given s = some ((given s).getD []) := by
      cases hnone : given s with
      | some t => rfl
      | none =>
        obtain ⟨piece, hfirst⟩ := exists_isFirst hs (isOpen_slot.mpr hnone)
        obtain ⟨s', rfl, _⟩ := hfirst.holds
        exact absurd (h.symm.trans (fill?_eq_error_iff.mpr hfirst)) (by simp)
    exact ⟨fun s => (given s).getD [], hgiven, Except.ok.inj (h.symm.trans (fill?_eq_ok hgiven))⟩
  · rintro ⟨content, hgiven, rfl⟩
    exact fill?_eq_ok hgiven

end Given

/-! ### Texts given by label -/

section Labelled

variable [Slot σ] {given : List (Text × Text)}

/-- Rendering stops with the label of the first slot for which no text is given. -/
theorem render_eq_error_iff : k.render given = .error t ↔
    ∃ s, IsFirst (IsOpen fun s => given.lookup (Slot.label s)) k (.slot s) ∧ Slot.label s = t := by
  rw [render]
  cases h : k.fill? fun s => given.lookup (Slot.label s) with
  | ok u =>
    constructor
    · intro herror
      exact absurd herror (by simp [Except.mapError])
    · rintro ⟨s, hfirst, _⟩
      exact absurd (h.symm.trans (fill?_eq_error_iff.mpr hfirst)) (by simp)
  | error s =>
    have hfirst := fill?_eq_error_iff.mp h
    constructor
    · intro herror
      exact ⟨s, hfirst, Except.error.inj herror⟩
    · rintro ⟨s', hfirst', rfl⟩
      rw [Piece.slot.inj (hfirst.unique hfirst')]
      rfl

theorem render_eq_ok_iff : k.render given = .ok t ↔
    ∃ content, (∀ s, .slot s ∈ k → given.lookup (Slot.label s) = some (content s)) ∧
      t = fill content k := by
  rw [← fill?_eq_ok_iff, render]
  cases k.fill? fun s => given.lookup (Slot.label s) <;> simp [Except.mapError]

/-- As labels are distinct, texts that are given by label come into their slots. -/
theorem lookup_label {slots : List σ} {content : σ → Text} (hs : s ∈ slots) :
    (slots.map fun s => (Slot.label s, content s)).lookup (Slot.label s) = some (content s) := by
  induction slots with
  | nil => exact absurd hs (by simp)
  | cons s' slots ih =>
    rw [List.map_cons, List.lookup_cons]
    by_cases heq : Slot.label s = Slot.label s'
    · rw [Slot.label_injective _ _ heq]
      simp
    · rw [beq_false_of_ne heq]
      rcases List.mem_cons.mp hs with rfl | hs
      · exact absurd rfl heq
      · exact ih hs

theorem render_labelled {slots : List σ} (content : σ → Text) (h : ∀ s, .slot s ∈ k → s ∈ slots) :
    k.render (slots.map fun s => (Slot.label s, content s)) = .ok (fill content k) :=
  render_eq_ok_iff.mpr ⟨content, fun s hs => lookup_label (h s hs), rfl⟩

end Labelled

end Phrasebook.Skeleton
