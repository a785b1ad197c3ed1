import Mathlib
import Phrasebook.Proofs.Generation.Contents
import Phrasebook.Proofs.PhraseFile.Faults

/-! What discovery makes of a directory, whatever the directory holds and in whatever order it is
listed: each phrase file once, sorted by locale, or the first fault among their names. -/

namespace Phrasebook.PhraseFile

variable {d : Disk} {dir : Path} {held : List (Text × DiskNode)} {r : Reference}

/-- The files stand for the entries of a directory, strictly in the order of their locales. -/
structure Arranged (r : Reference) (dir : Path) (entries : List (Text × Bytes))
    (files : List PhraseFile) : Prop where
  paths : (files.map (·.path)).Perm (entries.map fun e => dir.joinText e.1)
  own : ∀ f ∈ files, ∃ e ∈ entries,
    f.path = dir.joinText e.1 ∧ Locale.ofFileName r e.1 = .ok f.locale
  increasing : (files.map (·.locale)).Pairwise Locale.Precedes

/-- The outcome of discovery for the entries of a directory: files for all of them if every name
denotes a locale, and no two names the same, or else the first fault. -/
structure Discovers (r : Reference) (dir : Path) (entries : List (Text × Bytes))
    (outcome : Except Trouble (List PhraseFile)) : Prop where
  returns_iff : (∃ files, outcome = .ok files) ↔
    (∀ e ∈ entries, ∃ l, Locale.ofFileName r e.1 = .ok l) ∧
    ∀ e ∈ entries, ∀ e' ∈ entries, ∀ l,
      Locale.ofFileName r e.1 = .ok l → Locale.ofFileName r e'.1 = .ok l → e.1 = e'.1
  arranged : ∀ files, outcome = .ok files → Arranged r dir entries files
  reports_iff : ∀ t, outcome = .error t ↔
    ∃ name f, FirstFault r dir (entries.map (·.1)) name f ∧ t = .failure f

theorem discovers_of_short (wf : d.WellFormed) (hdir : d.find dir = .ok (.directory held))
    (hregion : r.hasRegion [] = false) (hshort : ¬d.IsOverlong dir) :
    Discovers r dir (d.phraseFiles dir) (inDirectory d dir r).outcome where
  returns_iff := exists_inDirectory_iff wf hdir hshort
  arranged files h := {
    paths := paths_perm wf hdir hshort h
    own := by
      intro f hf
      obtain ⟨e, he, hlocale, hpath⟩ := (mem_inDirectory wf hdir hshort h f).mp hf
      exact ⟨e, he, hpath, hlocale⟩
    increasing := pairwise_precedes_inDirectory hregion h }
  reports_iff _ := inDirectory_eq_error_iff wf hdir hshort

/-- What the disk refuses is no fault of a name. -/
theorem not_discovers_of_overlong {entries : List (Text × Bytes)} (wf : d.WellFormed)
    (hlong : d.IsOverlong dir) : ¬Discovers r dir entries (inDirectory d dir r).outcome := by
  intro h
  obtain ⟨e, _, he⟩ := inDirectory_of_overlong (r := r) wf hlong
  obtain ⟨name, f, _, ht⟩ := (h.reports_iff _).mp he
  exact absurd ht (by simp)

/-- Discovery finds the phrase files of a directory or reports the first fault, exactly if the disk
does not refuse to look at one of the entries; the order in which they are listed is of no
consequence. Where the disk refuses, that ends discovery. Disks are taken to be without links and
permissions, so all they refuse is a path that is too long. -/
theorem inDirectory_discovers_iff (wf : d.WellFormed)
    (hdir : d.find dir = .ok (.directory held)) (hregion : r.hasRegion [] = false) :
    (Discovers r dir (d.phraseFiles dir) (inDirectory d dir r).outcome ↔ ¬d.IsOverlong dir) ∧
    (¬d.IsOverlong dir → ∀ (d' : Disk) held', d'.WellFormed →
      d'.find dir = .ok (.directory held') → held'.Perm held →
      inDirectory d' dir r = inDirectory d dir r) ∧
    (d.IsOverlong dir → ∃ e, e.cause = .nameTooLong ∧
      (inDirectory d dir r).outcome = .error (.disk e)) := by
  refine ⟨⟨?_, discovers_of_short wf hdir hregion⟩, ?_, inDirectory_of_overlong wf⟩
  · intro h hlong
    exact not_discovers_of_overlong wf hlong h
  · intro hshort d' held' wf' hdir' hperm
    exact inDirectory_of_perm wf wf' hdir hdir' hshort hperm

open Generator

theorem inDirectory_discovers_bilingual :
    (packed bilingual).WellFormed ∧
    (packed bilingual).find greetingDir = .ok (.directory bilingual) ∧
    bilingualReference.hasRegion [] = false ∧
    Discovers bilingualReference greetingDir ((packed bilingual).phraseFiles greetingDir)
      (inDirectory (packed bilingual) greetingDir bilingualReference).outcome ∧
    inDirectory (packed bilingual.reverse) greetingDir bilingualReference =
      inDirectory (packed bilingual) greetingDir bilingualReference := by
  have hshort : ¬(packed bilingual).IsOverlong greetingDir :=
    Disk.not_isOverlong (find_packed bilingual) short_bilingual
  have wf : (packed bilingual).WellFormed := wellFormed_packed proper_bilingual
  have wf' : (packed bilingual.reverse).WellFormed := by
    apply wellFormed_packed
    apply DiskNode.proper_of_entries ⟨by decide, by decide⟩
    simp [bilingual, DiskNode.proper_file]
  have hregion : bilingualReference.hasRegion [] = false := by decide
  obtain ⟨hdiscovers, hlisted, _⟩ :=
    inDirectory_discovers_iff wf (find_packed bilingual) hregion
  exact ⟨wf, find_packed bilingual, hregion, hdiscovers.mpr hshort,
    hlisted hshort _ _ wf' (find_packed bilingual.reverse) bilingual.reverse_perm⟩

/-- By way of so many detours the directory can be looked at, but not the phrase file in it. -/
theorem isOverlong_greeting {n : Nat} (hn : n = 511) : greetingDisk.IsOverlong (detour n) := by
  have hfile : byteLength greetingName = 7 := by decide
  refine .inr ⟨_, find_detour hn.le, _, List.mem_singleton.mpr rfl, ?_⟩
  rw [byteLength_joinText_detour isEntryName_greetingName, hfile, maxPathLength]
  omega

theorem not_discovers_detour :
    greetingDisk.WellFormed ∧
    greetingDisk.find (detour 511) = .ok (.directory [(greetingName, .file greeting)]) ∧
    englishReference.hasRegion [] = false ∧
    ¬Discovers englishReference (detour 511) (greetingDisk.phraseFiles (detour 511))
      (inDirectory greetingDisk (detour 511) englishReference).outcome :=
  ⟨wellFormed_greetingDisk, find_detour (Nat.le_refl 511), by decide,
    not_discovers_of_overlong wellFormed_greetingDisk (isOverlong_greeting rfl)⟩

end Phrasebook.PhraseFile
