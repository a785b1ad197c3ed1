import Mathlib
import Phrasebook.Proofs.Generation.Again

/-! Input directories whose contents are known. For them the requirements of generation are
questions about a list of locales with their phrases, which can be decided. -/

namespace Phrasebook

namespace Generator

/-- The files stand for the locales and hold the phrases, one by one. -/
def HasContents (r : Reference) : List (Text × Bytes) → List (Locale × Phrases) → Prop :=
  List.Forall₂ fun e c => Locale.ofFileName r e.1 = .ok c.1 ∧
    Phrases.ofBytes Phrases.maxFileSize e.2 = .ok c.2

namespace HasContents

variable {r : Reference} {files : List (Text × Bytes)} {contents : List (Locale × Phrases)}

theorem has_iff (h : HasContents r files contents) (l : Locale) :
    Has r files l ↔ l ∈ contents.map (·.1) := by
  rw [List.mem_map]
  constructor
  · rintro ⟨e, he, hl⟩
    obtain ⟨c, hc, hlocale, _⟩ := exists_mem_right h he
    exact ⟨c, hc, Except.ok.inj (hlocale.symm.trans hl)⟩
  · rintro ⟨c, hc, rfl⟩
    obtain ⟨e, he, hlocale, _⟩ := exists_mem_left h hc
    exact ⟨e, he, hlocale⟩

theorem gives_iff (h : HasContents r files contents) (l : Locale) (entries : Phrases) :
    Gives r files l entries ↔ (l, entries) ∈ contents := by
  constructor
  · rintro ⟨e, he, hl, hentries⟩
    obtain ⟨c, hc, hlocale, hphrases⟩ := exists_mem_right h he
    obtain rfl := Except.ok.inj (hlocale.symm.trans hl)
    obtain rfl := Except.ok.inj (hphrases.symm.trans hentries)
    exact hc
  · intro hc
    obtain ⟨e, he, hlocale, hphrases⟩ := exists_mem_left h hc
    exact ⟨e, he, hlocale, hphrases⟩

theorem holds_names (h : HasContents r files contents) (hdistinct : (contents.map (·.1)).Nodup) :
    (requiresNames r files).holds := by
  have hlocales : files.map (fun e => Locale.ofFileName r e.1) =
      contents.map fun c => Except.ok c.1 :=
    map_eq_map_of_forall₂ h fun _ _ hc => hc.1
  have hnodup : (files.map fun e => Locale.ofFileName r e.1).Nodup := by
    have hmap : (contents.map fun c => (Except.ok c.1 : Except Failure Locale)) =
        (contents.map (·.1)).map Except.ok := by simp
    rw [hlocales, hmap]
    exact hdistinct.map fun _ _ => Except.ok.inj
  constructor
  · intro e he
    obtain ⟨c, _, hlocale, _⟩ := exists_mem_right h he
    exact ⟨c.1, hlocale⟩
  · intro e he e' he' l hl hl'
    rw [List.inj_on_of_nodup_map hnodup he he' (hl.trans hl'.symm)]

/-- The files of distinct locales are discovered. -/
theorem exists_files {d : Disk} {dir : Path} {held : List (Text × DiskNode)}
    (h : HasContents r (d.phraseFiles dir) contents) (wf : d.WellFormed)
    (hheld : d.find dir = .ok (.directory held))
    (hlength : ∀ e ∈ held, byteLength (dir.joinText e.1).toText ≤ maxPathLength)
    (hdistinct : (contents.map (·.1)).Nodup) :
    ∃ files, (PhraseFile.inDirectory d dir r).outcome = .ok files := by
  refine (decides_inDirectory wf (Disk.not_isOverlong hheld hlength)).returns_iff.mpr ?_
  rw [List.forall_mem_cons, List.forall_mem_singleton]
  exact ⟨⟨held, hheld⟩, h.holds_names hdistinct⟩

/-- What is asked of contents. -/
structure Suits (contents : List (Locale × Phrases)) (template : Text) : Prop where
  distinct : (contents.map (·.1)).Nodup
  wanted : ∃ c ∈ contents, c.1.canonical = PhraseFile.wantedTemplate template
  fallback : ∀ c ∈ contents, Locale.default c.1.language ∈ contents.map (·.1)
  accessors : ∀ c ∈ contents, c.1.canonical = PhraseFile.wantedTemplate template →
    ∀ key ∈ c.2.map (·.1), Identifier.isAccessor key = true
  agreement : ∀ c ∈ contents, c.1.canonical = PhraseFile.wantedTemplate template →
    ∀ c' ∈ contents, (∀ key ∈ c'.2.map (·.1), key ∈ c.2.map (·.1)) ∧
      (c'.1.region = none → ∀ key ∈ c.2.map (·.1), key ∈ c'.2.map (·.1))

/-- A package can be made from suitable contents. -/
theorem exists_build {d : Disk} {s : Settings} {held : List (Text × DiskNode)}
    (h : HasContents r (d.phraseFiles s.inputDir) contents) (wf : d.WellFormed)
    (hheld : d.find s.inputDir = .ok (.directory held))
    (hlength : ∀ e ∈ held, byteLength (s.inputDir.joinText e.1).toText ≤ maxPathLength)
    (hsuits : Suits contents s.template) : ∃ made, ((reading s r).build d).outcome = .ok made := by
  refine (decides_build_of_short (s := s) wf (Disk.not_isOverlong hheld hlength)).returns_iff.mpr ?_
  simp only [requirements, List.forall_mem_cons]
  refine ⟨⟨held, hheld⟩, h.holds_names hsuits.distinct, ?_, ?_, ?_, ?_, ?_, by simp⟩
  · obtain ⟨c, hc, hwanted⟩ := hsuits.wanted
    exact ⟨c.1, (h.has_iff _).mpr (List.mem_map_of_mem hc), hwanted⟩
  · intro l hl
    obtain ⟨c, hc, rfl⟩ := List.mem_map.mp ((h.has_iff l).mp hl)
    exact (h.has_iff _).mpr (hsuits.fallback c hc)
  · intro e he
    obtain ⟨c, _, _, hphrases⟩ := exists_mem_right h he
    exact ⟨c.2, hphrases, Phrases.nodup_keys_of_ofBytes hphrases⟩
  · intro l entries hgives
    exact hsuits.accessors _ ((h.gives_iff l entries).mp hgives)
  · intro l declared hgives hwanted l' entries hgives'
    exact hsuits.agreement _ ((h.gives_iff l declared).mp hgives) hwanted _
      ((h.gives_iff l' entries).mp hgives')

end HasContents

/-! ### English and French -/

/-- A disk with a directory for phrase files. -/
def packed (held : List (Text × DiskNode)) : Disk where
  root := .directory [("i18n", .directory held)]
  workingDirectory := []

theorem find_packed (held : List (Text × DiskNode)) :
    (packed held).find greetingDir = .ok (.directory held) := rfl

theorem wellFormed_packed {held : List (Text × DiskNode)}
    (h : DiskNode.Proper (.directory held)) : (packed held).WellFormed :=
  DiskNode.proper_nil.cons isEntryName_directory (by simp) h

def english : Bytes :=
  Utf8.encodeChars "\x7b\"hello\": \"Hello\", \"bye\": \"Bye\"\x7d".toList

def french : Bytes :=
  Utf8.encodeChars "\x7b\"bye\": \"Salut\", \"hello\": \"Bonjour\"\x7d".toList

def bilingualReference : Reference where
  languages := [("en", "English"), ("fr", "French")]
  regions := [("US", "United States")]

def englishEntries : Phrases := [("hello", "Hello"), ("bye", "Bye")]

def frenchEntries : Phrases := [("bye", "Salut"), ("hello", "Bonjour")]

def bilingual : List (Text × DiskNode) :=
  [("en.json", .file english), ("fr.json", .file french)]

theorem proper_bilingual : DiskNode.Proper (.directory bilingual) := by
  apply DiskNode.proper_of_entries ⟨by decide, by decide⟩
  simp [bilingual, DiskNode.proper_file]

theorem ofBytes_english :
    Phrases.ofBytes Phrases.maxFileSize english = .ok englishEntries := by
  decide +kernel

theorem ofBytes_french : Phrases.ofBytes Phrases.maxFileSize french = .ok frenchEntries := by
  decide +kernel

def bilingualContents : List (Locale × Phrases) :=
  [(⟨"en", none⟩, englishEntries), (⟨"fr", none⟩, frenchEntries)]

theorem phraseFiles_bilingual : (packed bilingual).phraseFiles greetingDir =
    [(("en.json" : Text), english), (("fr.json" : Text), french)] := by
  simp only [Disk.phraseFiles, find_packed]
  decide

theorem hasContents_bilingual :
    HasContents bilingualReference ((packed bilingual).phraseFiles greetingDir)
      bilingualContents := by
  rw [phraseFiles_bilingual]
  exact .cons ⟨by decide, ofBytes_english⟩ (.cons ⟨by decide, ofBytes_french⟩ .nil)

theorem short_bilingual :
    ∀ e ∈ bilingual, byteLength (greetingDir.joinText e.1).toText ≤ maxPathLength := by
  decide

/-- A package can be made with either language as the template. -/
theorem exists_build_bilingual {template : Text} (h : template = "en" ∨ template = "fr") :
    ∃ made, ((reading (settingsFor greetingDir template) bilingualReference).build
      (packed bilingual)).outcome = .ok made := by
  apply hasContents_bilingual.exists_build (wellFormed_packed proper_bilingual)
    (find_packed bilingual) short_bilingual
  · rcases h with rfl | rfl
    · constructor <;> decide +kernel
    · constructor <;> decide +kernel

end Generator

end Phrasebook
