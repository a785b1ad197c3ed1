import Mathlib
import Phrasebook.Proofs.Disk.Entries

/-! What stands where on a disk. A file put where no directory stood is seen at its place, and
nothing else looks different. -/

namespace Phrasebook

/-- What a place shows: a file with its content, or a directory, whatever it holds. -/
inductive Standing where
  | file (content : Bytes)
  | directory
deriving DecidableEq

namespace DiskNode

def standing : DiskNode → Standing
  | .file content => .file content
  | .directory _ => .directory

/-- What stands at a place below a node. -/
def look (n : DiskNode) (l : Location) : Option Standing :=
  (n.get l).map standing

variable {n new : DiskNode} {l l' : Location} {name : Text} {held : List (Text × DiskNode)}

theorem standing_eq_directory : n.standing = .directory ↔ n.isDirectory = true := by
  cases n <;> simp [standing, isDirectory]

@[simp] theorem look_nil (n : DiskNode) : n.look [] = some n.standing := rfl

theorem look_directory_cons (held : List (Text × DiskNode)) (name : Text) (l : Location) :
    look (.directory held) (name :: l) = (held.lookup name).bind fun inner => inner.look l := by
  rw [look, get_directory_cons]
  cases held.lookup name <;> rfl

/-- Nothing stands below a file or an empty directory. -/
theorem look_leaf_cons (h : n.entries = []) (name : Text) (l : Location) :
    n.look (name :: l) = none := by
  rw [look, get, h]
  rfl

/-- Where something stands below a place, a directory stands at the place. -/
theorem look_above {m : Location} (h : n.look (l ++ m) ≠ none) (hm : m ≠ []) :
    n.look l = some .directory := by
  induction l generalizing n with
  | nil =>
    cases n with
    | file content =>
      cases m with
      | nil => exact absurd rfl hm
      | cons first m => exact absurd rfl h
    | directory held => rfl
  | cons first l ih =>
    cases n with
    | file content => exact absurd rfl h
    | directory held =>
      rw [List.cons_append, look_directory_cons] at h
      rw [look_directory_cons]
      cases hinner : held.lookup first with
      | none => exact absurd (by rw [hinner]; rfl) h
      | some inner =>
        rw [hinner, Option.bind_some] at h
        exact ih h

/-- An entry that is set is seen under its name. -/
theorem look_setEntry_cons (held : List (Text × DiskNode)) (name : Text) (new : DiskNode)
    (first : Text) (l : Location) : look (.directory (setEntry held name new)) (first :: l) =
      if first = name then new.look l else look (.directory held) (first :: l) := by
  rw [look_directory_cons, look_directory_cons, lookup_setEntry]
  split_ifs <;> rfl

/-- A file or an empty directory set where no directory stood is seen; nothing else looks
different. -/
theorem look_setEntry (hnew : new.entries = [])
    (hold : look (.directory held) [name] ≠ some .directory) (l : Location) :
    look (.directory (setEntry held name new)) l =
      if l = [name] then some new.standing else look (.directory held) l := by
  cases l with
  | nil => simp [standing]
  | cons first rest =>
    rw [look_setEntry_cons]
    by_cases hfirst : first = name
    · subst hfirst
      rw [if_pos rfl]
      cases rest with
      | nil => simp
      | cons second rest =>
        -- what stood there had nothing below it either
        have hbelow : look (.directory held) (first :: second :: rest) = none := by
          by_contra h
          exact hold (look_above (l := [first]) h (by simp))
        rw [look_leaf_cons hnew, if_neg (by simp), hbelow]
    · rw [if_neg hfirst, if_neg (by simp [hfirst])]

/-- A file or an empty directory put where no directory stood is seen at its place; nothing else
looks different. -/
theorem look_put (hl : n.look l = some .directory) (hnew : new.entries = [])
    (hold : n.look (l ++ [name]) ≠ some .directory) (l' : Location) :
    (n.put (l ++ [name]) new).look l' =
      if l' = l ++ [name] then some new.standing else n.look l' := by
  induction l generalizing n l' with
  | nil =>
    cases n with
    | file content => exact absurd hl (by simp [standing])
    | directory held =>
      rw [List.nil_append, put_singleton]
      exact look_setEntry hnew hold l'
  | cons first l ih =>
    cases n with
    | file content => exact absurd hl (by simp [look])
    | directory held =>
      rw [look_directory_cons, Option.bind_eq_some_iff] at hl
      obtain ⟨inner, hinner, hl⟩ := hl
      rw [List.cons_append, look_directory_cons, hinner, Option.bind_some] at hold
      rw [List.cons_append, put_cons hinner]
      cases l' with
      | nil => simp [standing]
      | cons second rest =>
        rw [look_setEntry_cons]
        by_cases hsecond : second = first
        · subst hsecond
          rw [if_pos rfl, ih hl hold rest, look_directory_cons, hinner, Option.bind_some]
          simp
        · rw [if_neg hsecond, if_neg (by simp [hsecond])]

end DiskNode

namespace Disk

variable {d d' : Disk} {l : Location} {name : Text}

/-- What stands at a place. -/
def look (d : Disk) (l : Location) : Option Standing :=
  d.root.look l

theorem look_eq_directory :
    d.look l = some .directory ↔ ∃ held, d.get l = some (.directory held) := by
  show (d.root.get l).map DiskNode.standing = _ ↔ ∃ held, d.root.get l = _
  cases d.root.get l with
  | none => simp
  | some n => cases n <;> simp [DiskNode.standing]

theorem look_eq_file {content : Bytes} :
    d.look l = some (.file content) ↔ d.get l = some (.file content) := by
  show (d.root.get l).map DiskNode.standing = _ ↔ d.root.get l = _
  cases d.root.get l with
  | none => simp
  | some n => cases n <;> simp [DiskNode.standing]

theorem look_eq_none : d.look l = none ↔ d.get l = none :=
  Option.map_eq_none_iff

theorem look_of_get {n : DiskNode} (h : d.get l = some n) : d.look l = some n.standing := by
  show (d.get l).map DiskNode.standing = _
  rw [h]
  rfl

theorem look_put {new : DiskNode} (hl : d.look l = some .directory) (hnew : new.entries = [])
    (hold : d.look (l ++ [name]) ≠ some .directory) (l' : Location) :
    (d.put (l ++ [name]) new).look l' =
      if l' = l ++ [name] then some new.standing else d.look l' :=
  DiskNode.look_put hl hnew hold l'

theorem look_above {m : Location} (h : d.look (l ++ m) ≠ none) (hm : m ≠ []) :
    d.look l = some .directory :=
  DiskNode.look_above h hm

/-- The entries of a directory stand below it. -/
theorem get_entry {held : List (Text × DiskNode)} (h : d.get l = some (.directory held))
    (name : Text) : d.get (l ++ [name]) = held.lookup name := by
  have h' : d.root.get l = some (.directory held) := h
  rw [get, DiskNode.get_append_singleton, h']
  rfl

/-- What stands on a well-formed disk stands under a proper name. -/
theorem WellFormed.entryName (wf : d.WellFormed) (h : d.look (l ++ [name]) ≠ none) :
    IsEntryName name := by
  obtain ⟨held, hheld⟩ := look_eq_directory.mp (look_above h (by simp))
  rw [ne_eq, look_eq_none, get_entry hheld, lookup_eq_none_iff, not_not] at h
  obtain ⟨e, he, rfl⟩ := List.mem_map.mp h
  exact (wf l held hheld).named e he

theorem WellFormed.entryName_of_mem (wf : d.WellFormed) (h : d.look l ≠ none) (hname : name ∈ l) :
    IsEntryName name := by
  obtain ⟨before, after, rfl⟩ := List.append_of_mem hname
  apply wf.entryName (l := before)
  cases after with
  | nil => exact h
  | cons next after =>
    have hdir : d.look (before ++ [name]) = some .directory :=
      look_above (m := next :: after) (by simpa using h) (by simp)
    simp [hdir]

theorem WellFormed.put {new : DiskNode} (wf : d.WellFormed) (hnew : new.Proper)
    (hname : IsEntryName name) (hl : d.look l = some .directory) :
    (d.put (l ++ [name]) new).WellFormed := by
  obtain ⟨held, hheld⟩ := look_eq_directory.mp hl
  exact DiskNode.Proper.put wf hnew hname hheld

/-! ### Putting and taking away -/

section

variable {a b : DiskNode} {other : Text}

theorem lookup_of_look {held : List (Text × DiskNode)} (hl : d.get l = some (.directory held))
    (h : d.look (l ++ [name]) = none) : held.lookup name = none := by
  rwa [look_eq_none, get_entry hl] at h

theorem put_put (hl : d.look l = some .directory) :
    (d.put (l ++ [name]) a).put (l ++ [name]) b = d.put (l ++ [name]) b := by
  obtain ⟨held, hheld⟩ := look_eq_directory.mp hl
  exact congrArg (Disk.mk · d.workingDirectory) (DiskNode.put_put hheld a b)

/-- A file can be put where it stands. -/
theorem put_self (wf : d.WellFormed) {content : Bytes}
    (h : d.look (l ++ [name]) = some (.file content)) :
    d.put (l ++ [name]) (.file content) = d :=
  congrArg (Disk.mk · d.workingDirectory) (DiskNode.put_self wf (look_eq_file.mp h))

theorem erase_put (wf : d.WellFormed) (hl : d.look l = some .directory)
    (h : d.look (l ++ [name]) = none) : (d.put (l ++ [name]) a).erase (l ++ [name]) = d := by
  obtain ⟨held, hheld⟩ := look_eq_directory.mp hl
  exact congrArg (Disk.mk · d.workingDirectory)
    (DiskNode.erase_put wf hheld (lookup_of_look hheld h) a)

theorem erase_put_put (wf : d.WellFormed) (hl : d.look l = some .directory)
    (h : d.look (l ++ [name]) = none) (hne : name ≠ other) :
    ((d.put (l ++ [name]) a).put (l ++ [other]) b).erase (l ++ [name]) =
      d.put (l ++ [other]) b := by
  obtain ⟨held, hheld⟩ := look_eq_directory.mp hl
  exact congrArg (Disk.mk · d.workingDirectory)
    (DiskNode.erase_put_put wf hheld (lookup_of_look hheld h) hne a b)

end

end Disk

end Phrasebook
