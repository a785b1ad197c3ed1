import Mathlib
import Phrasebook.Disk
import Phrasebook.Proofs.Disk.Names
import Phrasebook.Proofs.Outcome

/-! Walking a disk. On a trail each node is held by the one before it, so what a path leads to
stands at the place where its trail ends. On a well-formed disk the entries of a directory are
reached by their names, and by nothing else. -/

namespace Phrasebook

/-- Entries that a directory can have: each under one proper name. -/
structure ProperEntries (held : List (Text × DiskNode)) : Prop where
  named : ∀ e ∈ held, IsEntryName e.1
  distinct : (held.map (·.1)).Nodup

/-- A disk as file systems have them: the entries of all its directories are proper. -/
def Disk.WellFormed (d : Disk) : Prop :=
  ∀ l held, d.get l = some (.directory held) → ProperEntries held

namespace DiskNode

theorem get_append_singleton (n : DiskNode) (l : Location) (name : Text) :
    n.get (l ++ [name]) = (n.get l).bind fun m => m.entries.lookup name := by
  induction l generalizing n with
  | nil =>
    simp only [List.nil_append, Option.bind_some, get]
    cases n.entries.lookup name <;> rfl
  | cons first l ih =>
    simp only [List.cons_append, get]
    cases n.entries.lookup first with
    | none => rfl
    | some inner => exact ih inner

end DiskNode

theorem ProperEntries.lookup_eq_some {held : List (Text × DiskNode)} (h : ProperEntries held)
    {name : Text} {n : DiskNode} : held.lookup name = some n ↔ (name, n) ∈ held :=
  lookup_eq_some_iff_mem h.distinct

namespace Disk

variable {d : Disk}

/-- A trail that goes from each node to one of its entries. -/
def Follows (d : Disk) : Trail → Prop
  | [] => True
  | (name, n) :: t => (d.nodeOn t).entries.lookup name = some n ∧ Follows d t

theorem get_location {t : Trail} (h : d.Follows t) : d.get t.location = some (d.nodeOn t) := by
  induction t with
  | nil => rfl
  | cons step t ih =>
    obtain ⟨name, n⟩ := step
    have hl : Trail.location ((name, n) :: t) = Trail.location t ++ [name] := by
      simp [Trail.location]
    have ht : d.root.get (Trail.location t) = some (d.nodeOn t) := ih h.2
    rw [hl, get, DiskNode.get_append_singleton, ht, Option.bind_some, h.1]
    rfl

/-- A step leads to the directory above or to an entry of the current one. -/
theorem enter_eq_ok_iff {t t' : Trail} {part : Text} :
    d.enter t part = .ok t' ↔ ∃ held, d.nodeOn t = .directory held ∧
      ((part = upward ∧ t' = t.tail) ∨ ∃ n, part ≠ upward ∧ byteLength part ≤ maxNameLength ∧
        held.lookup part = some n ∧ t' = (part, n) :: t) := by
  unfold enter
  cases d.nodeOn t with
  | file content => simp
  | directory held =>
    by_cases hup : part = upward
    · simp [hup, eq_comm]
    · by_cases hlong : maxNameLength < byteLength part
      · simp [hup, hlong]
      · have hshort : byteLength part ≤ maxNameLength := by omega
        cases hn : held.lookup part <;> simp [hup, hlong, hshort, hn, eq_comm]

/-- A step is refused at a file, for the name's length, or because nothing stands there. -/
theorem refused_of_enter {t : Trail} {part : Text} {cause : DiskCause}
    (h : d.enter t part = .error cause) : (∃ content, d.nodeOn t = .file content) ∨
      (part ≠ upward ∧ maxNameLength < byteLength part) ∨ cause = .notFound := by
  unfold enter at h
  split at h
  next content hnode => exact .inl ⟨content, hnode⟩
  next held hnode =>
    split_ifs at h with hup hlong
    · exact .inr (.inl ⟨hup, hlong⟩)
    · split at h
      next => exact absurd h (by simp)
      next => exact .inr (.inr (Except.error.inj h).symm)

theorem Follows.enter {t t' : Trail} {part : Text} (h : d.Follows t)
    (he : d.enter t part = .ok t') : d.Follows t' := by
  obtain ⟨held, hheld, ⟨_, rfl⟩ | ⟨n, _, _, hn, rfl⟩⟩ := enter_eq_ok_iff.mp he
  · cases t with
    | nil => exact h
    | cons step t => exact h.2
  · refine ⟨?_, h⟩
    rw [hheld]
    exact hn

theorem Follows.foldlM {parts : List Text} {t t' : Trail} (h : d.Follows t)
    (hf : parts.foldlM d.enter t = .ok t') : d.Follows t' := by
  induction parts generalizing t with
  | nil =>
    obtain rfl : t = t' := Except.ok.inj hf
    exact h
  | cons part parts ih =>
    rw [List.foldlM_cons, bind_eq_ok] at hf
    obtain ⟨next, he, hf⟩ := hf
    exact ih (h.enter he) hf

theorem follows_start {p : Path} {t : Trail} (h : d.start p = .ok t) : d.Follows t := by
  have hnil : d.Follows [] := trivial
  unfold start at h
  split_ifs at h
  · exact hnil.foldlM h
  · obtain rfl : [] = t := Except.ok.inj h
    exact hnil

theorem walk_eq (p : Path) : d.walk p = d.start p >>= fun t => p.parts.foldlM d.enter t := rfl

theorem walk_append_singleton (root : Path.Root) (parts : List Text) (name : Text) :
    d.walk ⟨root, parts ++ [name]⟩ = d.walk ⟨root, parts⟩ >>= fun t => d.enter t name := by
  rw [walk_eq, walk_eq]
  simp only [start, List.foldlM_append, List.foldlM_cons, List.foldlM_nil, bind_pure, bind_assoc]

theorem follows_walk {p : Path} {t : Trail} (h : d.walk p = .ok t) : d.Follows t := by
  rw [walk_eq, bind_eq_ok] at h
  obtain ⟨first, hs, hf⟩ := h
  exact (follows_start hs).foldlM hf

theorem checkLength_eq_ok {p : Path} :
    checkLength p = .ok () ↔ byteLength p.toText ≤ maxPathLength := by
  unfold checkLength
  split_ifs with h
  · simp [h]
  · simpa using h

/-- A node that a path leads to ends a trail. -/
theorem find_eq_ok_iff {p : Path} {n : DiskNode} :
    d.find p = .ok n ↔
      byteLength p.toText ≤ maxPathLength ∧ ∃ t, d.walk p = .ok t ∧ d.nodeOn t = n := by
  rw [← checkLength_eq_ok, find, locate]
  cases checkLength p with
  | error cause => simp [bind, Except.bind, Except.map]
  | ok _ => cases d.walk p <;> simp [bind, Except.bind, Except.map]

theorem find_of_read {p : Path} {bytes : Bytes} (h : d.read p = .ok bytes) :
    d.find p = .ok (.file bytes) := by
  unfold read at h
  split at h
  next hfind =>
    obtain rfl := Except.ok.inj h
    exact hfind
  next => exact absurd h (by simp)
  next => exact absurd h (by simp)

theorem stands_of_find {test : DiskNode → Bool} {p : Path} {n : DiskNode}
    (hunbarred : hasBarred p = false) (h : d.find p = .ok n) : d.stands test p = .ok (test n) := by
  simp [stands, hunbarred, h]

theorem stands_eq_true_iff {test : DiskNode → Bool} {p : Path} :
    d.stands test p = .ok true ↔ hasBarred p = false ∧ ∃ n, d.find p = .ok n ∧ test n = true := by
  unfold stands
  split_ifs with hunbarred
  · simp [hunbarred]
  · split
    next n hfind => simp [hunbarred, hfind]
    next hfind => simp [hfind]
    next hfind => simp [hfind]

/-- Looking is refused only for excessive length. -/
theorem stands_eq_error_iff {test : DiskNode → Bool} {p : Path} {e : DiskError} :
    d.stands test p = .error e ↔ hasBarred p = false ∧ d.find p = .error .nameTooLong ∧
      e = ⟨.nameTooLong, p.toText, none⟩ := by
  unfold stands
  split_ifs with hunbarred
  · simp [hunbarred]
  · split
    next n hfind => simp [hfind]
    next hfind => simp [hunbarred, hfind, eq_comm]
    next hcause hfind =>
      simp only [hfind, reduceCtorEq, Except.error.injEq, false_iff]
      exact fun h => hcause h.2.1

theorem exists_read_of_isFile {p : Path} (h : d.isFile p = .ok true) :
    ∃ bytes, d.read p = .ok bytes := by
  obtain ⟨_, n, hfind, hfile⟩ := stands_eq_true_iff.mp h
  cases n with
  | file content => exact ⟨content, by simp only [read, hfind]⟩
  | directory held => exact absurd hfile (by simp [DiskNode.isDirectory])

theorem find_of_long {p : Path} (h : maxPathLength < byteLength p.toText) :
    d.find p = .error .nameTooLong := by
  unfold find locate checkLength
  rw [if_pos h]
  rfl

theorem WellFormed.properEntries (wf : d.WellFormed) {p : Path} {held : List (Text × DiskNode)}
    (h : d.find p = .ok (.directory held)) : ProperEntries held := by
  obtain ⟨_, t, hw, ht⟩ := find_eq_ok_iff.mp h
  apply wf t.location
  rw [get_location (follows_walk hw), ht]

/-! ### Barred code points -/

theorem isNameable_of_enter (wf : d.WellFormed) {t t' : Trail} {part : Text}
    (h : d.Follows t) (he : d.enter t part = .ok t') : part.IsNameable := by
  obtain ⟨held, hheld, ⟨rfl, _⟩ | ⟨n, _, _, hn, _⟩⟩ := enter_eq_ok_iff.mp he
  · decide
  · have hproper : ProperEntries held := by
      apply wf t.location
      rw [get_location h, hheld]
    exact (hproper.named _ (hproper.lookup_eq_some.mp hn)).nameable

theorem isNameable_of_foldlM (wf : d.WellFormed) {parts : List Text} {t t' : Trail}
    (h : d.Follows t) (hf : parts.foldlM d.enter t = .ok t') :
    ∀ part ∈ parts, part.IsNameable := by
  induction parts generalizing t with
  | nil => simp
  | cons part parts ih =>
    rw [List.foldlM_cons, bind_eq_ok] at hf
    obtain ⟨next, he, hf⟩ := hf
    rw [List.forall_mem_cons]
    exact ⟨isNameable_of_enter wf h he, ih (h.enter he) hf⟩

/-- A path with a barred code point leads nowhere. -/
theorem hasBarred_of_find (wf : d.WellFormed) {p : Path} {n : DiskNode} (h : d.find p = .ok n) :
    hasBarred p = false := by
  obtain ⟨_, t, hw, _⟩ := find_eq_ok_iff.mp h
  rw [walk_eq, bind_eq_ok] at hw
  obtain ⟨first, hs, hf⟩ := hw
  exact hasBarred_eq_false.mpr (isNameable_of_foldlM wf (follows_start hs) hf)

/-! ### The entries of a directory -/

theorem ofText_part {part : Text} (h : Path.IsPart part) :
    Path.ofText part = ⟨.relative, [part]⟩ := by
  have hslash : ∀ c ∈ part, decide (c = Path.slash) = false := by
    intro c hc
    rw [decide_eq_false_iff_not]
    rintro rfl
    exact h.unparted hc
  have hroot : part.takeWhile (fun c => decide (c = Path.slash)) = [] := by
    cases part with
    | nil => rfl
    | cons c t => simp [hslash c (List.mem_cons_self ..)]
  have hproper : Path.isProper part = true := by
    simp [Path.isProper, h.nonempty, h.not_dot]
  unfold Path.ofText
  rw [hroot, Text.splitWhere_of_unmarked hslash]
  simp [hproper, Path.Root.ofSlashes]

theorem joinText_part {part : Text} (h : Path.IsPart part) (p : Path) :
    p.joinText part = { p with parts := p.parts ++ [part] } := by
  rw [Path.joinText, ofText_part h, Path.join, if_pos rfl]

theorem joinText_entryName {name : Text} (h : IsEntryName name) (p : Path) :
    p.joinText name = { p with parts := p.parts ++ [name] } :=
  joinText_part h.part p

theorem name_joinText {name : Text} (h : IsEntryName name) (p : Path) :
    (p.joinText name).name = name := by
  simp [joinText_entryName h, Path.name]

theorem hasBarred_joinText {name : Text} (h : IsEntryName name) {p : Path}
    (hp : hasBarred p = false) : hasBarred (p.joinText name) = false := by
  rw [joinText_entryName h]
  exact Path.hasBarred_append_singleton.mpr ⟨hp, h.nameable⟩

theorem walk_joinText {name : Text} (h : IsEntryName name) (p : Path) :
    d.walk (p.joinText name) = d.walk p >>= fun t => d.enter t name := by
  rw [joinText_entryName h]
  exact walk_append_singleton p.root p.parts name

/-- Within the limit on paths, an entry of a directory is found under its name. -/
theorem find_joinText {dir : Path} {held : List (Text × DiskNode)} {name : Text} {n : DiskNode}
    (hdir : d.find dir = .ok (.directory held)) (proper : ProperEntries held)
    (hmem : (name, n) ∈ held) (hlength : byteLength (dir.joinText name).toText ≤ maxPathLength) :
    d.find (dir.joinText name) = .ok n := by
  have hname : IsEntryName name := proper.named _ hmem
  obtain ⟨_, t, hw, ht⟩ := find_eq_ok_iff.mp hdir
  have henter : d.enter t name = .ok ((name, n) :: t) :=
    enter_eq_ok_iff.mpr ⟨held, ht, .inr ⟨n, hname.not_upward, hname.short,
      proper.lookup_eq_some.mpr hmem, rfl⟩⟩
  have hwalk : d.walk (dir.joinText name) = .ok ((name, n) :: t) := by
    rw [walk_joinText hname, hw]
    exact henter
  exact find_eq_ok_iff.mpr ⟨hlength, _, hwalk, rfl⟩

end Disk

end Phrasebook
