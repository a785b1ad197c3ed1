import Mathlib
import Phrasebook.Disk.Replacement
import Phrasebook.Proofs.Disk.Walk

/-! How many bytes names and the texts of paths take. A scratch file's name is longer than the name
of its file by the same number of bytes for every tag. -/

namespace Phrasebook

theorem byteLength_append (x y : Text) : byteLength (x ++ y) = byteLength x + byteLength y := by
  induction x with
  | nil => simp [byteLength]
  | cons c x ih =>
    rw [List.cons_append, byteLength, byteLength, ih]
    omega

theorem byteLength_pos {t : Text} (h : t ≠ []) : 0 < byteLength t := by
  cases t with
  | nil => exact absurd rfl h
  | cons c t =>
    rw [byteLength, byteWidth]
    split_ifs <;> omega

theorem Text.joined_append_singleton {parts : List Text} (h : parts ≠ []) (mark name : Text) :
    joined mark (parts ++ [name]) = joined mark parts ++ mark ++ name := by
  induction parts with
  | nil => exact absurd rfl h
  | cons first parts ih =>
    cases parts with
    | nil => simp [joined, List.intercalate]
    | cons second parts =>
      rw [List.cons_append, joined_cons (by simp), joined_cons (by simp), ih (by simp)]
      simp only [List.append_assoc]

namespace Path

variable {root : Root} {parts : List Text} {name : Text}

/-- The text of a path up to its last part. -/
def lead (root : Root) (parts : List Text) : Text :=
  root.text ++ if parts = [] then [] else Text.joined [slash] parts ++ [slash]

theorem toText_append_singleton (root : Root) (parts : List Text) (name : Text) :
    toText ⟨root, parts ++ [name]⟩ = lead root parts ++ name := by
  rw [toText, if_neg (by simp), lead]
  split_ifs with h
  · simp [h, Text.joined, List.intercalate]
  · rw [Text.joined_append_singleton h]
    simp

/-- A path is at least as long as the path above it. -/
theorem byteLength_toText_le (normal : IsNormal ⟨root, parts ++ [name]⟩) :
    byteLength (toText ⟨root, parts⟩) ≤ byteLength (toText ⟨root, parts ++ [name]⟩) := by
  have hname := byteLength_pos (normal.parts name (by simp)).nonempty
  rw [toText_append_singleton, byteLength_append, toText, lead]
  by_cases hparts : parts = []
  · subst hparts
    cases root with
    | relative => exact Nat.le_trans hname (Nat.le_add_left _ _)
    | single => exact Nat.le_add_right _ _
    | double => exact Nat.le_add_right _ _
  · rw [if_neg (by simp [hparts]), if_neg hparts, byteLength_append, byteLength_append,
      byteLength_append]
    dsimp only
    omega

end Path

/-! ### Scratch names -/

/-- A tag of eight bytes that can be part of a name. -/
structure IsTag (tag : Text) : Prop where
  length : byteLength tag = 8
  nameable : tag.IsNameable

/-- How many bytes the name of a scratch file has more than that of its file. -/
def scratchExtra : Nat := 14

namespace Disk

variable {name tag : Text}

theorem byteLength_scratchName (name tag : Text) :
    byteLength (scratchName name tag) = byteLength name + (byteLength tag + 6) := by
  have hend : byteLength ".tmp" = 4 := by decide
  have hdot : byteLength "." = 1 := by decide
  simp only [scratchName, byteLength_append, hend, hdot]
  omega

theorem scratchName_ne (name tag : Text) : scratchName name tag ≠ name := by
  intro h
  have hlength := byteLength_scratchName name tag
  rw [h] at hlength
  omega

theorem byteLength_scratchName_of_isTag (h : IsTag tag) (name : Text) :
    byteLength (scratchName name tag) = byteLength name + scratchExtra := by
  rw [byteLength_scratchName, h.length, scratchExtra]

theorem scratchName_ne_upward (name tag : Text) : scratchName name tag ≠ upward := by
  intro h
  have hlength := byteLength_scratchName name tag
  have hupward : byteLength upward = 2 := by decide
  rw [h, hupward] at hlength
  omega

theorem isNameable_scratchName (h : IsTag tag) (hname : name.IsNameable) :
    (scratchName name tag).IsNameable := by
  have hdot : Text.IsNameable "." := by decide
  have hend : Text.IsNameable ".tmp" := by decide
  simp only [scratchName, Text.isNameable_append]
  exact ⟨⟨⟨⟨hdot, hname⟩, hdot⟩, h.nameable⟩, hend⟩

end Disk

end Phrasebook
