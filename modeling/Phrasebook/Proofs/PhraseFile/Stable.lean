import Mathlib
import Phrasebook.Proofs.Disk.Places
import Phrasebook.Proofs.PhraseFile.Faults
import Phrasebook.Proofs.PhraseFile.Loading

/-! What discovery and loading depend on. On a disk where directories and files have been added, but
no phrase file in the input directory, they find what they found before, as long as the disk does
not refuse to look at what was added. -/

namespace Phrasebook

namespace Disk

variable {d d' : Disk} {dir : Path}

theorem find_eq_directory :
    (∃ held, d.find dir = .ok (.directory held)) ↔
      byteLength dir.toText ≤ maxPathLength ∧ d.Leads dir := by
  constructor
  · rintro ⟨held, h⟩
    obtain ⟨hlength, t, ht, hnode⟩ := find_eq_ok_iff.mp h
    exact ⟨hlength, t, ht, by rw [hnode]; rfl⟩
  · rintro ⟨hlength, t, ht, hdir⟩
    cases hnode : d.nodeOn t with
    | file content => exact absurd hdir (by simp [hnode, DiskNode.isDirectory])
    | directory held => exact ⟨held, find_eq_ok_iff.mpr ⟨hlength, t, ht, hnode⟩⟩

/-- The phrase files of a directory are the files that stand below it under names for them. -/
theorem mem_phraseFiles_iff (wf : d.WellFormed) {held : List (Text × DiskNode)}
    (h : d.find dir = .ok (.directory held)) {name : Text} {content : Bytes} :
    (name, content) ∈ d.phraseFiles dir ↔
      d.look (d.place dir ++ [name]) = some (.file content) ∧
        nameSuffix name = PhraseFile.ending := by
  obtain ⟨_, t, ht, hnode⟩ := find_eq_ok_iff.mp h
  have hget : d.get (d.place dir) = some (.directory held) := by
    rw [get_place ht, hnode]
  rw [mem_phraseFiles h, look_eq_file, get_entry hget,
    (wf.properEntries h).lookup_eq_some]

/-- What stands in a directory under a name that makes its path too long. -/
theorem isOverlong_of_look (wf : d.WellFormed) {held : List (Text × DiskNode)}
    (h : d.find dir = .ok (.directory held)) {name : Text}
    (hlook : d.look (d.place dir ++ [name]) ≠ none)
    (hlong : maxPathLength < byteLength (dir.joinText name).toText) : d.IsOverlong dir := by
  obtain ⟨_, t, ht, hnode⟩ := find_eq_ok_iff.mp h
  have hget : d.get (d.place dir) = some (.directory held) := by
    rw [get_place ht, hnode]
  rw [ne_eq, look_eq_none, get_entry hget] at hlook
  obtain ⟨n, hn⟩ := Option.ne_none_iff_exists'.mp hlook
  exact .inr ⟨held, h, (name, n), (wf.properEntries h).lookup_eq_some.mp hn, hlong⟩

/-- All that stood still stands, and in a directory the same phrase files. -/
structure SamePhrases (d d' : Disk) (dir : Path) : Prop where
  keeps : Keeps d d'
  files : ∀ name content, nameSuffix name = PhraseFile.ending →
    (d'.look (d.place dir ++ [name]) = some (.file content) ↔
      d.look (d.place dir ++ [name]) = some (.file content))

theorem SamePhrases.find (h : SamePhrases d d' dir) {held : List (Text × DiskNode)}
    (hdir : d.find dir = .ok (.directory held)) :
    ∃ held', d'.find dir = .ok (.directory held') := by
  obtain ⟨hlength, hleads⟩ := find_eq_directory.mp ⟨held, hdir⟩
  exact find_eq_directory.mpr ⟨hlength, h.keeps.leads hleads⟩

theorem SamePhrases.mem_phraseFiles (h : SamePhrases d d' dir) (wf : d.WellFormed)
    (wf' : d'.WellFormed) {held : List (Text × DiskNode)}
    (hdir : d.find dir = .ok (.directory held)) (e : Text × Bytes) :
    e ∈ d'.phraseFiles dir ↔ e ∈ d.phraseFiles dir := by
  obtain ⟨held', hdir'⟩ := h.find hdir
  obtain ⟨name, content⟩ := e
  rw [mem_phraseFiles_iff wf hdir, mem_phraseFiles_iff wf' hdir', h.keeps.place]
  by_cases hsuffix : nameSuffix name = PhraseFile.ending
  · rw [h.files name content hsuffix]
  · simp [hsuffix]

end Disk

namespace PhraseFile

variable {d d' : Disk} {dir : Path} {r : Reference} {held : List (Text × DiskNode)}

theorem inDirectory_congr (hsame : d.SamePhrases d' dir) (wf : d.WellFormed)
    (wf' : d'.WellFormed) (hdir : d.find dir = .ok (.directory held))
    (hshort : ¬d.IsOverlong dir) (hshort' : ¬d'.IsOverlong dir) :
    inDirectory d' dir r = inDirectory d dir r := by
  obtain ⟨held', hdir'⟩ := hsame.find hdir
  exact inDirectory_of_sameFiles wf wf' hdir hdir' hshort hshort'
    (hsame.mem_phraseFiles wf wf' hdir)

/-- What is read is what was read before. -/
theorem read_congr (hsame : d.SamePhrases d' dir) (wf : d.WellFormed) (wf' : d'.WellFormed)
    {files : List PhraseFile} (h : (inDirectory d dir r).outcome = .ok files)
    {f : PhraseFile} (hf : f ∈ files) :
    ∃ content, d.read f.path = .ok content ∧ d'.read f.path = .ok content := by
  obtain ⟨hshort, held, hdir⟩ := standing_of_inDirectory wf h
  obtain ⟨held', hdir'⟩ := hsame.find hdir
  obtain ⟨e, he, _, hpath⟩ := (mem_inDirectory wf hdir hshort h f).mp hf
  have hread := (read_entry wf hdir hshort he).2
  have hmem := (Disk.mem_phraseFiles hdir).mp he
  have hmem' := (Disk.mem_phraseFiles hdir').mp ((hsame.mem_phraseFiles wf wf' hdir e).mpr he)
  have hlength : byteLength (dir.joinText e.1).toText ≤ maxPathLength := by
    by_contra hlong
    exact hshort (.inr ⟨held, hdir, _, hmem.1, Nat.lt_of_not_le hlong⟩)
  have hfind := Disk.find_joinText hdir' (wf'.properEntries hdir') hmem'.1 hlength
  refine ⟨e.2, hpath ▸ hread, ?_⟩
  rw [hpath, Disk.read, hfind]

/-- Loaders that agree on the files load the same phrases. -/
theorem loadAll_congr {loader : Loader} {files : List PhraseFile}
    (h : ∀ f ∈ files, loader d' f.path = loader d f.path) :
    loadAll d' loader files = loadAll d loader files := by
  induction files with
  | nil => rfl
  | cons f fs ih =>
    rw [List.forall_mem_cons] at h
    simp only [loadAll, load, h.1, ih h.2]

end PhraseFile

end Phrasebook
