import Mathlib
import Phrasebook.Disk.Directories
import Phrasebook.Disk.Replacement

/-! What the operations of the disk are refused with. Making directories and moving files only meets
troubles with the disk and with paths; the one other trouble that a replacement can meet is a text
that cannot be encoded. -/

namespace Phrasebook

/-- A trouble with the disk or with a path, whatever is to be written there. -/
inductive Trouble.IsOfDisk : Trouble → Prop
  | disk (e : DiskError) : IsOfDisk (.disk e)
  | nullCharacter : IsOfDisk .nullCharacter
  | surrogate (e : Utf8.EncodeError) : IsOfDisk (.surrogate e)
  | tooManyDirectories : IsOfDisk .tooManyDirectories

theorem Trouble.isOfDisk_ofBarred (p : Path) : (ofBarred p).IsOfDisk := by
  unfold ofBarred
  split_ifs
  · exact .surrogate _
  · exact .nullCharacter

namespace Disk

variable {d : Disk} {t : Trouble} {tags : List Text} {target : Path} {content : Text}

theorem isOfDisk_of_createScratch {dir : Path} {name : Text}
    (h : d.createScratch dir name tags = .error t) : t.IsOfDisk := by
  induction tags with
  | nil =>
    obtain rfl := Except.error.inj h
    exact .disk _
  | cons tag tags ih =>
    rw [createScratch] at h
    split_ifs at h with hbarred
    · obtain rfl := Except.error.inj h
      exact Trouble.isOfDisk_ofBarred _
    · split at h
      next =>
        obtain rfl := Except.error.inj h
        exact .disk _
      next =>
        obtain rfl := Except.error.inj h
        exact .disk _
      next =>
        split at h
        next => exact ih h
        next => exact absurd h (by simp)

theorem isOfDisk_of_moveOnto {scratch : Scratch} {bytes : Bytes}
    (h : d.moveOnto scratch bytes target = .error t) : t.IsOfDisk := by
  unfold moveOnto at h
  dsimp only at h
  split_ifs at h with hbarred
  · obtain rfl := Except.error.inj h
    exact Trouble.isOfDisk_ofBarred _
  · split at h
    next =>
      obtain rfl := Except.error.inj h
      exact .disk _
    next =>
      obtain rfl := Except.error.inj h
      exact .disk _
    next =>
      split at h
      next =>
        obtain rfl := Except.error.inj h
        exact .disk _
      next => exact absurd h (by simp)

/-- A replacement is refused by the disk, or because its text cannot be encoded. -/
theorem replaceFile_error_cases (h : (d.replaceFile tags target content).2 = .error t) :
    t.IsOfDisk ∨ ∃ e, Utf8.encode content = .error e ∧ t = .encoding e := by
  unfold replaceFile at h
  split at h
  next t' hscratch =>
    obtain rfl := Except.error.inj h
    exact .inl (isOfDisk_of_createScratch hscratch)
  next =>
    split at h
    next e hencode =>
      obtain rfl := Except.error.inj h
      exact .inr ⟨e, hencode, rfl⟩
    next =>
      dsimp only at h
      split at h
      next t' hmove =>
        obtain rfl := Except.error.inj h
        exact .inl (isOfDisk_of_moveOnto hmove)
      next => exact absurd h (by simp)

/-- No failure stands for what refuses a replacement. -/
theorem replaceFile_ne_failure (f : Failure) :
    (d.replaceFile tags target content).2 ≠ .error (.failure f) := by
  intro h
  rcases replaceFile_error_cases h with hdisk | ⟨e, _, hencoding⟩
  · cases hdisk
  · exact absurd hencoding (by simp)

theorem isOfDisk_of_ensureParts {root : Path.Root} {room : Nat} {parts : List Text}
    (h : (ensureParts root room d parts).2 = .error t) : t.IsOfDisk := by
  induction room generalizing d parts with
  | zero =>
    obtain rfl := Except.error.inj h
    exact .tooManyDirectories
  | succ room ih =>
    unfold ensureParts at h
    split at h
    next => exact absurd h (by simp)
    next e _ =>
      split_ifs at h with hmissing
      · split at h
        next d' t' habove =>
          obtain rfl := Except.error.inj h
          exact ih (congrArg Prod.snd habove)
        next =>
          split at h
          next => exact absurd h (by simp)
          next =>
            obtain rfl := Except.error.inj h
            exact .disk _
      · obtain rfl := Except.error.inj h
        exact .disk _

end Disk

end Phrasebook
