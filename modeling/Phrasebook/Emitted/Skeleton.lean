import Phrasebook.Text

/-!
Skeletons of emitted source: fixed texts with slots between them. Filling a skeleton puts a text
into every slot in one pass, so that what is put into a slot is never searched for slots. The texts
may also be given by the labels of the slots.
-/

namespace Phrasebook

/-- A piece of a skeleton whose slots are named by `σ`. -/
inductive Piece (σ : Type) where
  | fixed (t : Text)
  | slot (s : σ)

abbrev Skeleton (σ : Type) := List (Piece σ)

/-- Slots that have distinct labels. -/
class Slot (σ : Type) where
  label : σ → Text
  label_injective : ∀ s s', label s = label s' → s = s'

namespace Skeleton

variable {σ : Type}

/-- The skeleton with a text in every slot. -/
def fill (content : σ → Text) (k : Skeleton σ) : Text :=
  k.flatMap fun piece =>
    match piece with
    | .fixed t => t
    | .slot s => content s

/-- The skeleton with a text in every slot, or the first slot for which there is none. -/
def fill? (content : σ → Option Text) : Skeleton σ → Except σ Text
  | [] => .ok []
  | .fixed t :: k => (fill? content k).map fun rest => t ++ rest
  | .slot s :: k =>
    match content s with
    | none => .error s
    | some t => (fill? content k).map fun rest => t ++ rest

/-- The skeleton with texts given by the labels of its slots, or the label of the first slot for
which none is given. -/
def render [Slot σ] (given : List (Text × Text)) (k : Skeleton σ) : Except Text Text :=
  (k.fill? fun s => given.lookup (Slot.label s)).mapError Slot.label

end Skeleton

/-- The first line of every emitted module's description. -/
def heading : Text := "Generated by typedloc. Do not edit."

end Phrasebook
