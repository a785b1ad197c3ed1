import Mathlib
import Phrasebook.Proofs.Disk.Lengths
import Phrasebook.Proofs.Generation.Integrity
import Phrasebook.Proofs.Text.Surrogates

/-! The names of the files that a run makes. They are plain names with the ending of modules, so
none of them can be that of a phrase file, or of a file anywhere but in the output directory. -/

namespace Phrasebook

theorem isPlainName_moduleFile {name : Text} (hslash : Path.slash ∉ name)
    (hnameable : name.IsNameable) : IsPlainName (moduleFile name) := by
  have hlength : 3 ≤ (moduleFile name).length := by
    rw [moduleFile, List.length_append]
    exact Nat.le_add_left 3 _
  have hne {t : Text} (ht : t.length < 3) : moduleFile name ≠ t := by
    rintro rfl
    omega
  refine ⟨⟨hne (by decide), hne (by decide), ?_⟩, hne (by decide), ?_⟩
  · rw [moduleFile, List.mem_append, not_or]
    exact ⟨hslash, by decide⟩
  · rw [moduleFile, Text.isNameable_append]
    exact ⟨hnameable, by decide⟩

theorem packageFile_eq : packageFile = moduleFile "__init__" := by
  decide

namespace CodePoint

variable {c : CodePoint}

theorem not_isNameCodePoint_of_isBarred (h : c.isBarred = true) : c.isNameCodePoint = false := by
  rw [← Bool.not_eq_true, isNameCodePoint_iff]
  rcases Bool.or_eq_true_iff.mp h with hnull | hbyteless
  · rw [eq_of_beq hnull]
    decide
  · have hsurrogate := (c.isSurrogate_iff).mp (Bool.and_eq_true_iff.mp hbyteless).1
    omega

theorem lowerReaches_of_isBarred (h : c.isBarred = true) : Text.lowerReaches c = false := by
  rcases Bool.or_eq_true_iff.mp h with hnull | hbyteless
  · rw [eq_of_beq hnull]
    decide +kernel
  · exact lowerReaches_of_isSurrogate (Bool.and_eq_true_iff.mp hbyteless).1

end CodePoint

namespace ClassPrefix

variable {p : ClassPrefix} {c : CodePoint}

theorem notMem_lookupModule (hc : c.isNameCodePoint = false) : c ∉ p.lookupModule := by
  obtain ⟨first, rest, hmodule, hfirst, hrest⟩ := p.lookupModule_eq_cons
  rw [hmodule, List.mem_cons, not_or]
  constructor
  · rintro rfl
    exact absurd (CodePoint.isNameCodePoint_of_isLetter hfirst) (by simp [hc])
  · intro hmem
    exact absurd (hrest c hmem) (by simp [hc])

theorem notMem_moduleOf {language : Text} (hc : c.isNameCodePoint = false)
    (hunderscore : c ∉ ("_" : Text)) (hlanguage : c ∉ language) : c ∉ p.moduleOf language := by
  simp only [moduleOf, List.mem_append, not_or]
  exact ⟨⟨notMem_lookupModule hc, hunderscore⟩, hlanguage⟩

theorem isNameable_lookupModule : p.lookupModule.IsNameable := by
  intro c hc
  rw [← Bool.not_eq_true]
  exact fun hbarred => notMem_lookupModule (CodePoint.not_isNameCodePoint_of_isBarred hbarred) hc

theorem isNameable_moduleOf {language : Text} (h : language.IsNameable) :
    (p.moduleOf language).IsNameable := by
  simp only [moduleOf, Text.isNameable_append]
  exact ⟨⟨isNameable_lookupModule, by decide⟩, h⟩

end ClassPrefix

namespace Generator.Stages

variable {g : Generator} {d : Disk} {made : Generated} (st : Stages g d made)
include st

/-- Each discovered file is an entry of the input directory. -/
theorem exists_entry (wf : d.WellFormed) {f : PhraseFile} (hf : f ∈ st.files) :
    ∃ name, IsEntryName name ∧ Locale.ofFileName st.reference name = .ok f.locale ∧
      f.path = g.settings.inputDir.joinText name := by
  obtain ⟨hshort, held, hheld⟩ := PhraseFile.standing_of_inDirectory wf st.files_eq
  obtain ⟨e, he, hlocale, hpath⟩ :=
    (PhraseFile.mem_inDirectory wf hheld hshort st.files_eq f).mp hf
  have hmem := (Disk.mem_phraseFiles hheld).mp he
  exact ⟨e.1, (wf.properEntries hheld).named _ hmem.1, hlocale, hpath⟩

/-- What is in the language of a locale is in the name of its file. -/
theorem notMem_language (wf : d.WellFormed) {c : CodePoint}
    (unreached : Text.lowerReaches c = false) (hc : ∀ name, IsEntryName name → c ∉ name)
    {b : Bundle} (hb : b ∈ made.bundles) : c ∉ b.1 := by
  have hlanguage : b.1 ∈ made.bundles.map (·.1) := List.mem_map_of_mem hb
  rw [st.map_language, Groups.mem_sorted, List.map_map, List.mem_map] at hlanguage
  obtain ⟨f, hf, heq⟩ := hlanguage
  obtain ⟨name, hname, hlocale, _⟩ := st.exists_entry wf hf
  rw [← heq]
  intro hmem
  have hcode := Locale.mem_of_mem_language unreached hlocale hmem
  exact hc name hname (List.takeWhile_subset _ hcode)

theorem isNameable_language (wf : d.WellFormed) {b : Bundle} (hb : b ∈ made.bundles) :
    Text.IsNameable b.1 := by
  intro c hc
  rw [← Bool.not_eq_true]
  intro hbarred
  exact st.notMem_language wf (CodePoint.lowerReaches_of_isBarred hbarred)
    (fun _ h => h.nameable.notMem hbarred) hb hc

/-- The names of all outputs are plain and those of modules. -/
theorem exists_moduleFile (wf : d.WellFormed) {o : Text × Text} (ho : o ∈ made.outputs) :
    ∃ name, o.1 = moduleFile name ∧ IsPlainName (moduleFile name) := by
  have hname : o.1 ∈ made.outputs.map (·.1) := List.mem_map_of_mem ho
  rw [st.outputs_names, List.mem_append, List.mem_map, List.mem_pair] at hname
  rcases hname with ⟨b, hb, hb'⟩ | hlookup | hpackage
  · refine ⟨_, hb'.symm, isPlainName_moduleFile ?_ ?_⟩
    · exact ClassPrefix.notMem_moduleOf (by decide) (by decide)
        (st.notMem_language wf (by decide) (fun _ h => h.unparted) hb)
    · exact ClassPrefix.isNameable_moduleOf (st.isNameable_language wf hb)
  · exact ⟨_, hlookup, isPlainName_moduleFile (ClassPrefix.notMem_lookupModule (by decide))
      ClassPrefix.isNameable_lookupModule⟩
  · exact ⟨_, hpackage.trans packageFile_eq, isPlainName_moduleFile (by decide) (by decide)⟩

theorem plain_outputs (wf : d.WellFormed) : ∀ o ∈ made.outputs, IsPlainName o.1 := by
  intro o ho
  obtain ⟨name, hname, hplain⟩ := st.exists_moduleFile wf ho
  exact hname ▸ hplain

end Generator.Stages

end Phrasebook
