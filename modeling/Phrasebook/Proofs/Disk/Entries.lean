import Mathlib
import Phrasebook.Proofs.Disk.Walk

/-! Entries of directories. What is put into a directory is found under its name, everything else
stays as it was, and an entry that is new can be taken away without a trace. -/

namespace Phrasebook.DiskNode

/-! ### Entries by name -/

section Entries

variable {held : List (Text × DiskNode)} {name other : Text} {n m : DiskNode}

/-- The entries with the node under a name replaced. -/
def replaced (held : List (Text × DiskNode)) (name : Text) (n : DiskNode) :
    List (Text × DiskNode) :=
  held.map fun e => if e.1 == name then (name, n) else e

theorem any_name_iff : (held.any fun e => e.1 == name) = true ↔ name ∈ held.map (·.1) := by
  rw [List.any_eq_true, List.mem_map]
  simp only [beq_iff_eq]

theorem setEntry_of_mem (h : name ∈ held.map (·.1)) (n : DiskNode) :
    setEntry held name n = replaced held name n :=
  if_pos (any_name_iff.mpr h)

theorem setEntry_of_notMem (h : name ∉ held.map (·.1)) (n : DiskNode) :
    setEntry held name n = held ++ [(name, n)] :=
  if_neg (mt any_name_iff.mp h)

theorem mem_of_lookup (h : held.lookup name = some n) : name ∈ held.map (·.1) :=
  lookup_isSome_iff.mp (Option.isSome_of_eq_some h)

theorem map_fst_replaced (held : List (Text × DiskNode)) (name : Text) (n : DiskNode) :
    (replaced held name n).map (·.1) = held.map (·.1) := by
  rw [replaced, List.map_map]
  apply List.map_congr_left
  intro e _
  by_cases h : e.1 = name
  · simp [h]
  · simp [h]

theorem replaced_of_notMem (h : name ∉ held.map (·.1)) (n : DiskNode) :
    replaced held name n = held := by
  conv_rhs => rw [← List.map_id held]
  apply List.map_congr_left
  intro e he
  have hne : e.1 ≠ name := fun heq => h (heq ▸ List.mem_map_of_mem he)
  simp [hne]

theorem replaced_replaced (held : List (Text × DiskNode)) (name : Text) (n m : DiskNode) :
    replaced (replaced held name n) name m = replaced held name m := by
  rw [replaced, replaced, replaced, List.map_map]
  apply List.map_congr_left
  intro e _
  by_cases h : e.1 = name
  · simp [h]
  · simp [h]

theorem lookup_replaced (held : List (Text × DiskNode)) (name other : Text) (n : DiskNode) :
    (replaced held name n).lookup other =
      if other = name then (held.lookup other).map (fun _ => n) else held.lookup other := by
  induction held with
  | nil => simp [replaced]
  | cons e held ih =>
    obtain ⟨first, inner⟩ := e
    rw [replaced, List.map_cons, ← replaced]
    by_cases hfirst : other = first
    · by_cases hname : first = name
      · simp [hfirst, hname]
      · simp [hfirst, hname]
    · have hne : (other == first) = false := beq_false_of_ne hfirst
      by_cases hname : first = name
      · subst hname
        simp [List.lookup_cons, hne, ih]
      · simp [List.lookup_cons, hne, ih, hname]

/-- An entry is found under its name, and the others under theirs. -/
theorem lookup_setEntry (held : List (Text × DiskNode)) (name other : Text) (n : DiskNode) :
    (setEntry held name n).lookup other = if other = name then some n else held.lookup other := by
  by_cases h : name ∈ held.map (·.1)
  · rw [setEntry_of_mem h, lookup_replaced]
    by_cases hother : other = name
    · subst hother
      cases hlookup : held.lookup other with
      | none => exact absurd h (lookup_eq_none_iff.mp hlookup)
      | some m => simp
    · rw [if_neg hother, if_neg hother]
  · rw [setEntry_of_notMem h, List.lookup_append]
    by_cases hother : other = name
    · subst hother
      simp [lookup_eq_none_iff.mpr h]
    · simp [List.lookup_cons, beq_false_of_ne hother, hother]

theorem lookup_setEntry_self (held : List (Text × DiskNode)) (name : Text) (n : DiskNode) :
    (setEntry held name n).lookup name = some n := by
  rw [lookup_setEntry, if_pos rfl]

theorem mem_setEntry {e : Text × DiskNode} (h : e ∈ setEntry held name n) :
    e = (name, n) ∨ e ∈ held := by
  unfold setEntry at h
  split_ifs at h
  · obtain ⟨e', he', rfl⟩ := List.mem_map.mp h
    by_cases hname : (e'.1 == name) = true
    · exact .inl (if_pos hname)
    · rw [if_neg hname]
      exact .inr he'
  · rcases List.mem_append.mp h with h | h
    · exact .inr h
    · exact .inl (List.mem_singleton.mp h)

/-- A second entry under a name replaces the first. -/
theorem setEntry_setEntry (held : List (Text × DiskNode)) (name : Text) (n m : DiskNode) :
    setEntry (setEntry held name n) name m = setEntry held name m := by
  by_cases h : name ∈ held.map (·.1)
  · rw [setEntry_of_mem h, setEntry_of_mem h, setEntry_of_mem (by rwa [map_fst_replaced]),
      replaced_replaced]
  · have happend : replaced (held ++ [(name, n)]) name m = held ++ [(name, m)] := by
      rw [replaced, List.map_append, ← replaced, replaced_of_notMem h]
      simp
    rw [setEntry_of_notMem h, setEntry_of_notMem h, setEntry_of_mem (by simp), happend]

/-- Where names are distinct, no entry but the one that is found has its name. -/
theorem eq_of_lookup (h : ProperEntries held) (hn : held.lookup name = some n)
    {e : Text × DiskNode} (he : e ∈ held) (hname : e.1 = name) : n = e.2 := by
  subst hname
  exact Option.some.inj (hn.symm.trans (h.lookup_eq_some.mpr he))

/-- Where names are distinct, an entry can be put where it stands. -/
theorem replaced_self (h : ProperEntries held) (hn : held.lookup name = some n) :
    replaced held name n = held := by
  conv_rhs => rw [← List.map_id held]
  apply List.map_congr_left
  intro e he
  by_cases hname : e.1 = name
  · obtain rfl := eq_of_lookup h hn he hname
    subst hname
    simp
  · simp [hname]

theorem setEntry_self (h : ProperEntries held) (hn : held.lookup name = some n) :
    setEntry held name n = held := by
  rw [setEntry_of_mem (mem_of_lookup hn), replaced_self h hn]

theorem properEntries_setEntry (h : ProperEntries held) (hname : IsEntryName name)
    (n : DiskNode) : ProperEntries (setEntry held name n) := by
  constructor
  · intro e he
    rcases mem_setEntry he with rfl | he
    · exact hname
    · exact h.named e he
  · by_cases hmem : name ∈ held.map (·.1)
    · rw [setEntry_of_mem hmem, map_fst_replaced]
      exact h.distinct
    · rw [setEntry_of_notMem hmem, List.map_append, List.nodup_append]
      refine ⟨h.distinct, by simp, ?_⟩
      intro x hx y hy hxy
      obtain rfl : y = name := by simpa using hy
      exact hmem (hxy ▸ hx)

end Entries

/-! ### What stands below a directory -/

variable {n new : DiskNode} {l : Location} {name : Text} {held : List (Text × DiskNode)}

theorem get_directory_cons (held : List (Text × DiskNode)) (name : Text) (l : Location) :
    get (.directory held) (name :: l) = (held.lookup name).bind fun inner => inner.get l := by
  have hentries : (DiskNode.directory held).entries = held := rfl
  rw [get, hentries]
  cases held.lookup name <;> rfl

theorem exists_lookup {m : DiskNode} (h : n.get (name :: l) = some m) :
    ∃ held inner, n = .directory held ∧ held.lookup name = some inner ∧ inner.get l = some m := by
  cases n with
  | file content => exact absurd h (by simp)
  | directory held =>
    rw [get_directory_cons, Option.bind_eq_some_iff] at h
    obtain ⟨inner, hinner, hm⟩ := h
    exact ⟨held, inner, rfl, hinner, hm⟩

theorem put_singleton (held : List (Text × DiskNode)) (name : Text) (new : DiskNode) :
    put (.directory held) [name] new = .directory (setEntry held name new) := by
  rw [put, put_nil]

theorem put_cons {inner : DiskNode} (h : held.lookup name = some inner) (l : Location)
    (new : DiskNode) : put (.directory held) (name :: l) new =
      .directory (setEntry held name (inner.put l new)) := by
  rw [put, h]
  rfl

/-- A node whose directories all have proper entries. -/
def Proper (n : DiskNode) : Prop :=
  ∀ l held, n.get l = some (.directory held) → ProperEntries held

theorem proper_file (content : Bytes) : Proper (.file content) := by
  intro l held h
  cases l with
  | nil => exact absurd h (by simp)
  | cons name l => exact absurd h (by simp)

theorem Proper.entries (h : Proper (.directory held)) : ProperEntries held :=
  h [] held rfl

theorem Proper.of_lookup (h : Proper (.directory held)) (hn : held.lookup name = some n) :
    Proper n := by
  intro l inner hl
  apply h (name :: l)
  rw [get_directory_cons, hn]
  exact hl

theorem proper_directory (h : ProperEntries held)
    (hall : ∀ name n, held.lookup name = some n → Proper n) : Proper (.directory held) := by
  intro l inner hl
  cases l with
  | nil =>
    obtain rfl := DiskNode.directory.inj (Option.some.inj hl)
    exact h
  | cons name l =>
    rw [get_directory_cons, Option.bind_eq_some_iff] at hl
    obtain ⟨n, hn, hl⟩ := hl
    exact hall name n hn l inner hl

theorem proper_of_entries (h : ProperEntries held) (hall : ∀ e ∈ held, Proper e.2) :
    Proper (.directory held) :=
  proper_directory h fun _ _ hn => hall _ (h.lookup_eq_some.mp hn)

theorem proper_nil : Proper (.directory []) :=
  proper_directory ⟨by simp, by simp⟩ (by simp)

theorem Proper.cons (h : Proper (.directory held)) (hname : IsEntryName name)
    (hnew : name ∉ held.map (·.1)) (hn : Proper n) : Proper (.directory ((name, n) :: held)) := by
  apply proper_directory
  · constructor
    · rw [List.forall_mem_cons]
      exact ⟨hname, h.entries.named⟩
    · rw [List.map_cons, List.nodup_cons]
      exact ⟨hnew, h.entries.distinct⟩
  · intro other m hm
    rw [List.lookup_cons] at hm
    split at hm
    · exact Option.some.inj hm ▸ hn
    · exact h.of_lookup hm

/-- Putting a proper node under a proper name keeps the form. -/
theorem Proper.put (h : Proper n) (hnew : Proper new) (hname : IsEntryName name)
    (hl : n.get l = some (.directory held)) : Proper (n.put (l ++ [name]) new) := by
  induction l generalizing n with
  | nil =>
    obtain rfl := Option.some.inj hl
    rw [List.nil_append, put_singleton]
    apply proper_directory (properEntries_setEntry h.entries hname new)
    intro other m hm
    rw [lookup_setEntry] at hm
    split_ifs at hm
    · exact Option.some.inj hm ▸ hnew
    · exact h.of_lookup hm
  | cons first l ih =>
    obtain ⟨entries, inner, rfl, hinner, hl⟩ := exists_lookup hl
    have hfirst : IsEntryName first :=
      h.entries.named _ (h.entries.lookup_eq_some.mp hinner)
    rw [List.cons_append, put_cons hinner]
    apply proper_directory (properEntries_setEntry h.entries hfirst _)
    intro other m hm
    rw [lookup_setEntry] at hm
    split_ifs at hm
    · exact Option.some.inj hm ▸ ih (h.of_lookup hinner) hl
    · exact h.of_lookup hm

/-! ### Putting and taking away -/

theorem put_put (hl : n.get l = some (.directory held)) (a b : DiskNode) :
    (n.put (l ++ [name]) a).put (l ++ [name]) b = n.put (l ++ [name]) b := by
  induction l generalizing n with
  | nil =>
    obtain rfl := Option.some.inj hl
    simp only [List.nil_append, put_singleton, setEntry_setEntry]
  | cons first l ih =>
    obtain ⟨entries, inner, rfl, hinner, hl⟩ := exists_lookup hl
    have hput := lookup_setEntry_self entries first (inner.put (l ++ [name]) a)
    simp only [List.cons_append, put_cons hinner, put_cons hput, setEntry_setEntry, ih hl]

/-- A file can be put where it stands. -/
theorem put_self (h : Proper n) (hnew : n.get (l ++ [name]) = some new) :
    n.put (l ++ [name]) new = n := by
  induction l generalizing n with
  | nil =>
    obtain ⟨entries, inner, rfl, hinner, hget⟩ := exists_lookup hnew
    obtain rfl := Option.some.inj hget
    rw [List.nil_append, put_singleton, setEntry_self h.entries hinner]
  | cons first l ih =>
    obtain ⟨entries, inner, rfl, hinner, hget⟩ := exists_lookup hnew
    rw [List.cons_append, put_cons hinner, ih (h.of_lookup hinner) hget,
      setEntry_self h.entries hinner]

theorem erase_cons (held : List (Text × DiskNode)) (first : Text) (l : Location) (name : Text) :
    erase (.directory held) (first :: (l ++ [name])) =
      .directory
        (held.map fun e => if e.1 == first then (first, erase e.2 (l ++ [name])) else e) := by
  cases l <;> rfl

/-- Taking away below a directory is putting what is left of it. -/
theorem erase_eq_put {inner : DiskNode} (h : ProperEntries held) {first : Text}
    (hfirst : held.lookup first = some inner) (l : Location) (name : Text) :
    erase (.directory held) (first :: (l ++ [name])) =
      .directory (setEntry held first (inner.erase (l ++ [name]))) := by
  rw [erase_cons, setEntry_of_mem (mem_of_lookup hfirst), replaced]
  congr 1
  apply List.map_congr_left
  intro e he
  by_cases hname : e.1 = first
  · obtain rfl := eq_of_lookup h hfirst he hname
    rfl
  · simp [hname]

theorem filter_of_notMem (h : name ∉ held.map (·.1)) :
    held.filter (fun e => e.1 != name) = held := by
  rw [List.filter_eq_self]
  intro e he
  rw [bne_iff_ne]
  rintro rfl
  exact h (List.mem_map_of_mem he)

theorem filter_setEntry {t : Text} (h : name ∉ held.map (·.1)) (hne : name ≠ t)
    (a c : DiskNode) :
    (setEntry (held ++ [(name, a)]) t c).filter (fun e => e.1 != name) = setEntry held t c := by
  by_cases ht : t ∈ held.map (·.1)
  · have hleft : name ∉ (replaced held t c).map (·.1) := by rwa [map_fst_replaced]
    rw [setEntry_of_mem (by simp [ht]), setEntry_of_mem ht, replaced, List.map_append, ← replaced,
      List.filter_append, filter_of_notMem hleft]
    simp [hne]
  · have ht' : t ∉ (held ++ [(name, a)]).map (·.1) := by
      rw [List.map_append, List.mem_append, not_or]
      exact ⟨ht, by simpa using hne.symm⟩
    rw [setEntry_of_notMem ht', setEntry_of_notMem ht, List.filter_append, List.filter_append,
      filter_of_notMem h]
    simp [hne.symm]

theorem erase_singleton (held : List (Text × DiskNode)) (name : Text) :
    erase (.directory held) [name] = .directory (held.filter fun e => e.1 != name) := rfl

/-- A new entry can be taken away again. -/
theorem erase_put (h : Proper n) (hl : n.get l = some (.directory held))
    (hfresh : held.lookup name = none) (a : DiskNode) :
    (n.put (l ++ [name]) a).erase (l ++ [name]) = n := by
  induction l generalizing n with
  | nil =>
    obtain rfl := Option.some.inj hl
    rw [lookup_eq_none_iff] at hfresh
    rw [List.nil_append, put_singleton, erase_singleton, setEntry_of_notMem hfresh,
      List.filter_append, filter_of_notMem hfresh]
    simp
  | cons first l ih =>
    obtain ⟨entries, inner, rfl, hinner, hl⟩ := exists_lookup hl
    have hfirst : IsEntryName first := h.entries.named _ (h.entries.lookup_eq_some.mp hinner)
    have hput := lookup_setEntry_self entries first (inner.put (l ++ [name]) a)
    rw [List.cons_append, put_cons hinner,
      erase_eq_put (properEntries_setEntry h.entries hfirst _) hput, setEntry_setEntry,
      ih (h.of_lookup hinner) hl, setEntry_self h.entries hinner]

/-- A new entry can be taken away after its neighbour was put. -/
theorem erase_put_put {t : Text} (h : Proper n) (hl : n.get l = some (.directory held))
    (hfresh : held.lookup name = none) (hne : name ≠ t) (a c : DiskNode) :
    ((n.put (l ++ [name]) a).put (l ++ [t]) c).erase (l ++ [name]) = n.put (l ++ [t]) c := by
  induction l generalizing n with
  | nil =>
    obtain rfl := Option.some.inj hl
    rw [lookup_eq_none_iff] at hfresh
    simp only [List.nil_append, put_singleton, erase_singleton, setEntry_of_notMem hfresh,
      filter_setEntry hfresh hne]
  | cons first l ih =>
    obtain ⟨entries, inner, rfl, hinner, hl⟩ := exists_lookup hl
    have hfirst : IsEntryName first := h.entries.named _ (h.entries.lookup_eq_some.mp hinner)
    rw [List.cons_append, List.cons_append, put_cons hinner,
      put_cons (lookup_setEntry_self entries first _), setEntry_setEntry,
      erase_eq_put (properEntries_setEntry h.entries hfirst _)
        (lookup_setEntry_self entries first _),
      setEntry_setEntry, ih (h.of_lookup hinner) hl, put_cons hinner]

end Phrasebook.DiskNode
