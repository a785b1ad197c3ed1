import Mathlib
import Phrasebook.Proofs.Generation.Contents

/-! Whether a run does what is required of it: it decides the requirements exactly where the disk
does not refuse to look at a path. -/

namespace Phrasebook.Generator

variable {d : Disk} {r : Reference}

theorem not_decides_of_overlong {s : Settings} (wf : d.WellFormed)
    (hlong : d.IsOverlong s.inputDir) :
    ¬Requirement.Decides (requirements s r d)
      (build { settings := s, source := .given r } d).outcome := by
  intro hdecides
  obtain ⟨e, _, he⟩ := build_of_overlong (r := r) wf hlong
  obtain ⟨f, hf, _⟩ := hdecides.reports _ he
  exact absurd hf (by simp)

/-- A run decides the requirements exactly where no path is too long for the disk; where one is,
the disk's refusal ends the run. Disks are taken to be without links and permissions, so there is
nothing else for which they refuse to look at a path. -/
theorem build_decides_iff (s : Settings) (r : Reference) (d : Disk) (wf : d.WellFormed) :
    (Requirement.Decides (requirements s r d)
      (build { settings := s, source := .given r } d).outcome ↔ ¬d.IsOverlong s.inputDir) ∧
    (d.IsOverlong s.inputDir → ∃ e, e.cause = .nameTooLong ∧
      (build { settings := s, source := .given r } d).outcome = .error (.disk e)) :=
  ⟨⟨fun hdecides hlong => not_decides_of_overlong wf hlong hdecides, decides_build_of_short wf⟩,
    build_of_overlong wf⟩

/-- Neither of the two files is German, so German is no template for them. -/
theorem not_holds_requirements_german :
    ¬∀ q ∈ requirements (settingsFor greetingDir "de") bilingualReference (packed bilingual),
      q.holds := by
  intro hall
  have htemplate : (requiresTemplate bilingualReference ((packed bilingual).phraseFiles greetingDir)
      "de").holds := hall _ (by simp [requirements, settingsFor])
  obtain ⟨l, hl, hwanted⟩ := htemplate
  obtain ⟨c, hc, rfl⟩ := List.mem_map.mp ((hasContents_bilingual.has_iff l).mp hl)
  have hother : ∀ c ∈ bilingualContents, c.1.canonical ≠ PhraseFile.wantedTemplate "de" := by
    decide +kernel
  exact hother c hc hwanted

theorem build_decides_bilingual :
    (packed bilingual).WellFormed ∧ ¬(packed bilingual).IsOverlong greetingDir ∧
    Requirement.Decides
      (requirements (settingsFor greetingDir "en") bilingualReference (packed bilingual))
      ((reading (settingsFor greetingDir "en") bilingualReference).build
        (packed bilingual)).outcome ∧
    (∀ q ∈ requirements (settingsFor greetingDir "en") bilingualReference (packed bilingual),
      q.holds) ∧
    Requirement.Decides
      (requirements (settingsFor greetingDir "de") bilingualReference (packed bilingual))
      ((reading (settingsFor greetingDir "de") bilingualReference).build
        (packed bilingual)).outcome ∧
    ¬∀ q ∈ requirements (settingsFor greetingDir "de") bilingualReference (packed bilingual),
      q.holds := by
  have wf : (packed bilingual).WellFormed := wellFormed_packed proper_bilingual
  have hshort : ¬(packed bilingual).IsOverlong greetingDir :=
    Disk.not_isOverlong (find_packed bilingual) short_bilingual
  have henglish := (build_decides_iff (settingsFor greetingDir "en") bilingualReference _ wf).1.mpr
    hshort
  have hgerman := (build_decides_iff (settingsFor greetingDir "de") bilingualReference _ wf).1.mpr
    hshort
  exact ⟨wf, hshort, henglish, henglish.returns_iff.mp (exists_build_bilingual (.inl rfl)),
    hgerman, not_holds_requirements_german⟩

/-- A disk with nothing on it. -/
def bareDisk : Disk :=
  ⟨.directory [], []⟩

theorem wellFormed_bareDisk : bareDisk.WellFormed := by
  intro l held h
  cases l with
  | nil =>
    obtain rfl : [] = held := DiskNode.directory.inj (Option.some.inj h)
    exact ⟨by simp, by simp⟩
  | cons name l => exact absurd h (by simp [bareDisk, Disk.get, DiskNode.get, DiskNode.entries])

theorem find_bareDisk {name : Text} (hupward : name ≠ upward)
    (hname : maxNameLength < byteLength name)
    (hpath : byteLength (Path.toText ⟨.relative, [name]⟩) ≤ maxPathLength) :
    bareDisk.find ⟨.relative, [name]⟩ = .error .nameTooLong := by
  rw [Disk.find, Disk.locate, Disk.checkLength, if_neg (by omega)]
  show Except.map _ (bareDisk.enter [] name >>= pure) = _
  simp only [Disk.enter, Disk.nodeOn, bareDisk, if_neg hupward, if_pos hname]
  rfl

/-- A path of one name of 300 letters. -/
def longPath : Path :=
  ⟨.relative, [List.replicate 300 ('a' : CodePoint)]⟩

/-- Nothing stands under a long name, but the run fails to find that out. -/
theorem not_decides_longPath :
    bareDisk.WellFormed ∧
    ¬Requirement.Decides (requirements (settingsFor longPath "en") ⟨[], []⟩ bareDisk)
      (build { settings := settingsFor longPath "en", source := .given ⟨[], []⟩ }
        bareDisk).outcome := by
  have hfind : bareDisk.find longPath = .error .nameTooLong :=
    find_bareDisk (by decide +kernel) (by decide +kernel) (by decide +kernel)
  refine ⟨wellFormed_bareDisk, not_decides_of_overlong wellFormed_bareDisk (.inl ⟨?_, hfind⟩)⟩
  decide +kernel

end Phrasebook.Generator
