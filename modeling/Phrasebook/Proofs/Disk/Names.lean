import Mathlib
import Phrasebook.Proofs.Text.Cut
import Phrasebook.Trouble

/-! Names that files can have, and paths that are made of them. No barred code point is in a name,
and the trouble with a path that holds one says where it stands. -/

namespace Phrasebook

/-- A text without barred code points. -/
def Text.IsNameable (t : Text) : Prop :=
  ∀ c ∈ t, c.isBarred = false

namespace Text

variable {x y : Text}

instance (t : Text) : Decidable t.IsNameable :=
  inferInstanceAs (Decidable (∀ c ∈ t, c.isBarred = false))

theorem isNameable_append : IsNameable (x ++ y) ↔ IsNameable x ∧ IsNameable y :=
  List.forall_mem_append

theorem IsNameable.notMem {c : CodePoint} (h : IsNameable x) (hc : c.isBarred = true) : c ∉ x :=
  fun hmem => absurd hc (by simp [h c hmem])

end Text

/-- What the name of a directory's entry must be. -/
structure IsEntryName (t : Text) : Prop where
  nonempty : t ≠ []
  not_dot : t ≠ "."
  not_upward : t ≠ upward
  unparted : Path.slash ∉ t
  nameable : t.IsNameable
  short : byteLength t ≤ maxNameLength

instance (t : Text) : Decidable (IsEntryName t) :=
  decidable_of_iff (t ≠ [] ∧ t ≠ "." ∧ t ≠ upward ∧ Path.slash ∉ t ∧ t.IsNameable ∧
      byteLength t ≤ maxNameLength)
    ⟨fun ⟨hnonempty, hdot, hupward, hunparted, hnameable, hshort⟩ =>
      ⟨hnonempty, hdot, hupward, hunparted, hnameable, hshort⟩,
    fun h => ⟨h.nonempty, h.not_dot, h.not_upward, h.unparted, h.nameable, h.short⟩⟩

/-- What a part of a path in normal form is. -/
structure Path.IsPart (t : Text) : Prop where
  nonempty : t ≠ []
  not_dot : t ≠ "."
  unparted : Path.slash ∉ t

theorem IsEntryName.part {t : Text} (h : IsEntryName t) : Path.IsPart t :=
  ⟨h.nonempty, h.not_dot, h.unparted⟩

/-- A file name that leads nowhere else. -/
structure IsPlainName (name : Text) : Prop extends Path.IsPart name where
  not_upward : name ≠ upward
  nameable : name.IsNameable

theorem IsPlainName.entryName {name : Text} (h : IsPlainName name)
    (hshort : byteLength name ≤ maxNameLength) : IsEntryName name :=
  ⟨h.nonempty, h.not_dot, h.not_upward, h.unparted, h.nameable, hshort⟩

/-! ### Paths -/

theorem Disk.hasBarred_eq_false {p : Path} :
    hasBarred p = false ↔ ∀ part ∈ p.parts, part.IsNameable := by
  simp [hasBarred, Text.IsNameable]

/-- A path in normal form, without barred code points. -/
structure Path.IsNormal (p : Path) : Prop where
  parts : ∀ part ∈ p.parts, Path.IsPart part
  unbarred : Disk.hasBarred p = false

namespace Path

variable {root : Root} {parts : List Text} {name : Text}

theorem isPart_of_mem_ofText {t part : Text} (hpart : part ∈ (Path.ofText t).parts) :
    IsPart part := by
  obtain ⟨hmem, hproper⟩ := List.mem_filter.mp hpart
  rw [isProper, Bool.and_eq_true, bne_iff_ne, bne_iff_ne] at hproper
  refine ⟨hproper.1, hproper.2, ?_⟩
  intro hslash
  simpa using Text.not_mark_of_mem_splitWhere hmem _ hslash

theorem isNormal_ofText {t : Text} (h : Disk.hasBarred (.ofText t) = false) :
    (Path.ofText t).IsNormal :=
  ⟨fun _ hpart => isPart_of_mem_ofText hpart, h⟩

theorem hasBarred_append_singleton :
    Disk.hasBarred ⟨root, parts ++ [name]⟩ = false ↔
      Disk.hasBarred ⟨root, parts⟩ = false ∧ name.IsNameable := by
  rw [Disk.hasBarred_eq_false, Disk.hasBarred_eq_false, List.forall_mem_append,
    List.forall_mem_singleton]

theorem IsNormal.above (h : IsNormal ⟨root, parts ++ [name]⟩) : IsNormal ⟨root, parts⟩ where
  parts part hpart := h.parts part (List.mem_append_left _ hpart)
  unbarred := (hasBarred_append_singleton.mp h.unbarred).1

theorem IsNormal.entryName (h : IsNormal ⟨root, parts ++ [name]⟩) (hup : name ≠ upward)
    (hshort : byteLength name ≤ maxNameLength) : IsEntryName name := by
  have hpart := h.parts name (List.mem_append_right _ (List.mem_singleton_self _))
  exact ⟨hpart.nonempty, hpart.not_dot, hup, hpart.unparted,
    (hasBarred_append_singleton.mp h.unbarred).2, hshort⟩

theorem mem_toText {p : Path} {part : Text} {c : CodePoint} (hpart : part ∈ p.parts)
    (hc : c ∈ part) : c ∈ p.toText := by
  have hne : ¬(p.root = .relative ∧ p.parts = []) := fun h => by simp [h.2] at hpart
  rw [toText, if_neg hne]
  exact List.mem_append_right _ ((Text.infix_joined hpart).subset hc)

end Path

/-! ### Troubles with paths -/

/-- An error of an encoding names the first of the refused code points and its place. -/
theorem Utf8.EncodeError.exists_ofFirst {refused : CodePoint → Bool}
    (hrefused : ∀ c, refused c = true → c.isSurrogate = true) {t : Text}
    (h : t.any refused = true) : ∃ passed rest,
      t = passed ++ (ofFirst refused t).first :: rest ∧
      (ofFirst refused t).position = passed.length ∧
      refused (ofFirst refused t).first = true ∧ ∀ c ∈ passed, refused c = false := by
  obtain ⟨bad, hbad, hrefusedBad⟩ := List.any_eq_true.mp h
  have hne : t.dropWhile (!refused ·) ≠ [] := by
    rw [ne_eq, List.dropWhile_eq_nil_iff]
    intro hall
    simpa [hrefusedBad] using hall bad hbad
  obtain ⟨c, rest, hrest⟩ := List.exists_cons_of_ne_nil hne
  have hsplit : t = t.takeWhile (!refused ·) ++ c :: rest := by
    rw [← hrest, List.takeWhile_append_dropWhile]
  have hc : refused c = true := by
    have hhead := List.head_dropWhile_not (!refused ·) hne
    simpa [hrest] using hhead
  have hfirst : (ofFirst refused t).first = c := by
    have hdrop : (t.takeWhile (!refused ·) ++ c :: rest).drop
        (t.takeWhile (!refused ·)).length = c :: rest := List.drop_left
    rw [← hsplit] at hdrop
    simp [ofFirst, hdrop, hrefused c hc]
  refine ⟨t.takeWhile (!refused ·), rest, hfirst ▸ hsplit, rfl, hfirst ▸ hc, ?_⟩
  intro d hd
  simpa using List.mem_takeWhile_imp hd

/-- The trouble with a barred path is a surrogate, named with its place, or else the null
character. -/
theorem Trouble.ofBarred_cases {p : Path} (h : Disk.hasBarred p = true) :
    (∃ e passed rest, ofBarred p = .surrogate e ∧ p.toText = passed ++ e.first :: rest ∧
      e.position = passed.length ∧ e.first.isByteless = true ∧
      ∀ c ∈ passed, c.isByteless = false) ∨
    ofBarred p = .nullCharacter ∧ CodePoint.ofNat 0 ∈ p.toText ∧
      ∀ c ∈ p.toText, c.isByteless = false := by
  unfold ofBarred
  by_cases hbyteless : p.toText.any CodePoint.isByteless = true
  · have hsurrogate (c : CodePoint) (hc : c.isByteless = true) : c.isSurrogate = true :=
      (Bool.and_eq_true_iff.mp hc).1
    obtain ⟨passed, rest, hfirst⟩ :=
      Utf8.EncodeError.exists_ofFirst hsurrogate hbyteless
    exact .inl ⟨_, passed, rest, if_pos hbyteless, hfirst⟩
  · have hnone : ∀ c ∈ p.toText, c.isByteless = false := by simpa using hbyteless
    refine .inr ⟨if_neg hbyteless, ?_, hnone⟩
    obtain ⟨part, hpart, hany⟩ := List.any_eq_true.mp h
    obtain ⟨c, hc, hbarred⟩ := List.any_eq_true.mp hany
    have hmem := Path.mem_toText hpart hc
    rw [CodePoint.isBarred, hnone c hmem, Bool.or_false, beq_iff_eq] at hbarred
    exact hbarred ▸ hmem

end Phrasebook
