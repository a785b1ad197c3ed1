import Mathlib
import Phrasebook.PhraseFile
import Phrasebook.Proofs.Outcome

/-! The template among the files, and the phrases that files hold. Each file gives the phrases of
its own locale, in order, and the first that cannot be loaded ends the loading. -/

namespace Phrasebook.PhraseFile

variable {files : List PhraseFile} {dir : Path} {template : Text}

/-- The spelling of a locale that a template setting asks for. -/
def wantedTemplate (template : Text) : Text :=
  Locale.normalize ((templateName template).before '.')

theorem templateOf_cases (files : List PhraseFile) (dir : Path) (template : Text) :
    (∃ f ∈ files, f.locale.canonical = wantedTemplate template ∧
      templateOf files dir template = .ok f) ∨
    ((∀ f ∈ files, f.locale.canonical ≠ wantedTemplate template) ∧
      ∃ p, templateOf files dir template = .error (.missingTemplate p)) := by
  unfold templateOf
  dsimp only
  split
  next f hfind =>
    have hwanted := List.find?_some hfind
    rw [beq_iff_eq] at hwanted
    exact .inl ⟨f, List.mem_of_find?_eq_some hfind, hwanted, rfl⟩
  next hfind =>
    rw [List.find?_eq_none] at hfind
    refine .inr ⟨?_, _, rfl⟩
    intro f hf hwanted
    exact hfind f hf (beq_iff_eq.mpr hwanted)

theorem templateOf_ok {f : PhraseFile} (h : templateOf files dir template = .ok f) :
    f ∈ files ∧ f.locale.canonical = wantedTemplate template := by
  rcases templateOf_cases files dir template with ⟨g, hg, hwanted, hok⟩ | ⟨_, p, herror⟩
  · obtain rfl : f = g := Except.ok.inj (h.symm.trans hok)
    exact ⟨hg, hwanted⟩
  · exact absurd h (by simp [herror])

variable {d : Disk} {loader : Loader} {sets : List PhraseSet}

/-- The phrases of a locale are those that the loader gives for its file. -/
structure Loads (d : Disk) (loader : Loader) (f : PhraseFile) (s : PhraseSet) : Prop where
  locale : s.locale = f.locale
  path : s.path = f.path
  entries : loader d f.path = .ok s.entries

theorem Loads.unique {f : PhraseFile} {s s' : PhraseSet} (h : Loads d loader f s)
    (h' : Loads d loader f s') : s = s' := by
  obtain ⟨l, path, entries⟩ := s
  obtain ⟨l', path', entries'⟩ := s'
  obtain rfl : l = l' := h.locale.trans h'.locale.symm
  obtain rfl : path = path' := h.path.trans h'.path.symm
  obtain rfl : entries = entries' := Except.ok.inj (h.entries.symm.trans h'.entries)
  rfl

theorem load_ok {f : PhraseFile} {entries : Phrases} (h : loader d f.path = .ok entries) :
    (load d loader f).outcome = .ok ⟨f.locale, f.path, entries⟩ := by
  simp only [load, Traced.outcome_bind, Traced.outcome_ofExcept, h]
  rfl

theorem load_error {f : PhraseFile} {t : Trouble} (h : loader d f.path = .error t) :
    (load d loader f).outcome = .error t := by
  simp only [load, Traced.outcome_bind, Traced.outcome_ofExcept, h]
  rfl

/-- Either all files are loaded, or loading ends with the trouble of one of them. -/
theorem loadAll_cases (d : Disk) (loader : Loader) (files : List PhraseFile) :
    (∃ sets, List.Forall₂ (Loads d loader) files sets ∧
      (loadAll d loader files).outcome = .ok sets) ∨
    ∃ f ∈ files, ∃ t, loader d f.path = .error t ∧ (loadAll d loader files).outcome = .error t := by
  induction files with
  | nil => exact .inl ⟨[], .nil, rfl⟩
  | cons f fs ih =>
    cases hload : loader d f.path with
    | error t =>
      refine .inr ⟨f, List.mem_cons_self .., t, hload, ?_⟩
      simp only [loadAll, Traced.outcome_bind, load_error hload]
      rfl
    | ok entries =>
      rcases ih with ⟨sets, hsets, hrest⟩ | ⟨g, hg, t, ht, hrest⟩
      · refine .inl ⟨⟨f.locale, f.path, entries⟩ :: sets, .cons ⟨rfl, rfl, hload⟩ hsets, ?_⟩
        simp only [loadAll, Traced.outcome_bind, load_ok hload, hrest]
        rfl
      · refine .inr ⟨g, List.mem_cons_of_mem f hg, t, ht, ?_⟩
        simp only [loadAll, Traced.outcome_bind, load_ok hload, hrest]
        rfl

theorem loadAll_ok (h : (loadAll d loader files).outcome = .ok sets) :
    List.Forall₂ (Loads d loader) files sets := by
  rcases loadAll_cases d loader files with ⟨sets', hsets, hok⟩ | ⟨_, _, t, _, herror⟩
  · obtain rfl : sets = sets' := Except.ok.inj (h.symm.trans hok)
    exact hsets
  · exact absurd h (by simp [herror])

theorem map_locale_of_loads (h : List.Forall₂ (Loads d loader) files sets) :
    sets.map (·.locale) = files.map (·.locale) :=
  (map_eq_map_of_forall₂ h fun _ _ hs => hs.locale.symm).symm

end Phrasebook.PhraseFile
