import Mathlib
import Phrasebook.Proofs.ClassNames
import Phrasebook.Proofs.Generation.Stages

/-! Inheritance. With plain tables each class is found under its name among all classes of a run,
so its members are those of its own file and, behind them, those of its language's default. Since
the default has every key of the template, every class has a text for every key. -/

namespace Phrasebook

namespace AccessorClass

variable {classes : List AccessorClass} {b c : AccessorClass} {name : Text}

theorem mem_of_named (h : named classes name = some c) : c ∈ classes ∧ c.name = name := by
  have hname := List.find?_some h
  exact ⟨List.mem_reverse.mp (List.mem_of_find?_eq_some h), by simpa using hname⟩

/-- A class is found under a name that no other class has. -/
theorem named_eq_some (hc : c ∈ classes) (hunique : ∀ b ∈ classes, b.name = c.name → b = c) :
    named classes c.name = some c := by
  cases h : named classes c.name with
  | none =>
    have hnone := List.find?_eq_none.mp h c (List.mem_reverse.mpr hc)
    exact absurd hnone (by simp)
  | some b =>
    obtain ⟨hb, hname⟩ := mem_of_named h
    rw [hunique b hb hname]

theorem named_eq_none (h : ∀ c ∈ classes, c.name ≠ name) : named classes name = none := by
  cases hn : named classes name with
  | none => rfl
  | some c =>
    obtain ⟨hc, hname⟩ := mem_of_named hn
    exact absurd hname (h c hc)

/-- Without a parent among the classes a class has its own members only. -/
theorem resolve_of_root (hc : named classes name = some c)
    (hparent : named classes c.parent = none) (key : Text) :
    resolve classes name key = c.members.lookup key := by
  rw [resolve, hc, resolveWithin]
  cases c.members.lookup key with
  | some t => rfl
  | none =>
    rw [hparent]
    rfl

/-- The members of the parent stand behind a class's own. -/
theorem resolve_of_parent (hc : named classes name = some c)
    (hparent : named classes c.parent = some b) (key : Text) :
    resolve classes name key = (c.members.lookup key).or (b.members.lookup key) := by
  rw [resolve, hc, resolveWithin]
  cases c.members.lookup key with
  | some t => rfl
  | none =>
    rw [hparent, resolveWithin]
    cases b.members.lookup key <;> rfl

end AccessorClass

namespace Generator.Stages

variable {g : Generator} {d : Disk} {made : Generated} (st : Stages g d made)
include st

theorem named_class (plain : st.reference.IsPlain) {c : AccessorClass}
    (hc : c ∈ Bundle.classes made.bundles) :
    AccessorClass.named (Bundle.classes made.bundles) c.name = some c :=
  AccessorClass.named_eq_some hc fun _ hb hname => st.class_eq_of_name plain hb hc hname

theorem named_base (plain : st.reference.IsPlain) :
    AccessorClass.named (Bundle.classes made.bundles) g.settings.classPrefix.base = none := by
  apply AccessorClass.named_eq_none
  intro c hc
  rw [st.name_of_mem hc]
  exact ClassPrefix.classOf_ne_base (st.isPlain_class plain hc)

/-- A class holds the entries of a set that uses the template's keys only, and all of them if it is
that of a default. -/
theorem members_class {c : AccessorClass} (hc : c ∈ Bundle.classes made.bundles) :
    (∀ key ∈ c.members.map (·.1), key ∈ st.templateSet.keys) ∧
    (c.locale.isDefault = true → ∀ key ∈ st.templateSet.keys, key ∈ c.members.map (·.1)) := by
  obtain ⟨s, hs, rfl⟩ := st.made_of_mem hc
  exact ⟨(st.accepts s hs).known, (st.accepts s hs).complete⟩

theorem loader_class {c : AccessorClass} (hc : c ∈ Bundle.classes made.bundles) :
    ∃ f ∈ st.files, f.locale = c.locale ∧ g.loader d f.path = .ok c.members := by
  obtain ⟨s, hs, rfl⟩ := st.made_of_mem hc
  obtain ⟨f, hf, hload⟩ := exists_mem_left st.loads hs
  exact ⟨f, hf, hload.locale.symm, hload.entries⟩

/-- The class of a language's default, behind any class of the language. -/
theorem exists_default (plain : st.reference.IsPlain) {c : AccessorClass}
    (hc : c ∈ Bundle.classes made.bundles) :
    ∃ b ∈ Bundle.classes made.bundles, b.locale = .default c.locale.language ∧
      ∀ key, AccessorClass.resolve (Bundle.classes made.bundles) c.name key =
        (c.members.lookup key).or (b.members.lookup key) := by
  have hl : c.locale ∈ st.files.map (·.locale) := by
    rw [← st.map_locale_classes plain]
    exact List.mem_map_of_mem hc
  obtain ⟨b, hb, hbl⟩ := st.exists_class plain (st.fallback _ hl)
  refine ⟨b, hb, hbl, ?_⟩
  intro key
  have hnamed := st.named_class plain hc
  by_cases hd : c.locale.isDefault = true
  · -- the default of the language is the class itself, and the base is no class
    have hparent : AccessorClass.named (Bundle.classes made.bundles) c.parent = none := by
      rw [st.parent_class hc, if_pos hd]
      exact st.named_base plain
    obtain rfl : b = c :=
      st.class_eq_of_locale plain hb hc (hbl.trans (Locale.default_language hd))
    rw [AccessorClass.resolve_of_root hnamed hparent]
    cases b.members.lookup key <;> rfl
  · have hparent : AccessorClass.named (Bundle.classes made.bundles) c.parent = some b := by
      rw [st.parent_class hc, if_neg hd, ← hbl, ← st.name_of_mem hb]
      exact st.named_class plain hb
    exact AccessorClass.resolve_of_parent hnamed hparent key

/-- The set of the template's file is the template's. -/
theorem loader_template : g.loader d st.template.path = .ok st.templateSet.entries := by
  obtain ⟨f, hf, hload⟩ := exists_mem_left st.loads st.templateSet_mem
  have htemplate := (PhraseFile.templateOf_ok st.template_eq).1
  have hlocale : f.locale = st.template.locale := by
    rw [← hload.locale, st.templateSet_locale]
  obtain rfl := List.inj_on_of_nodup_map st.taken.distinct hf htemplate hlocale
  exact hload.entries

end Generator.Stages

namespace Generator

variable {g : Generator} {d : Disk} {made : Generated} {r : Reference}

/-- In every class of a run, a key has the text of the class's own file, or else, if it is a key of
the template, that of the file of the language's default; and exactly the keys of the template,
which are those of the abstract base, have one. -/
theorem resolve_complete (hr : g.reference = .ok r) (plain : r.IsPlain)
    (h : (g.build d).outcome = .ok made) :
    ∃ files template declared,
      (PhraseFile.inDirectory d g.settings.inputDir r).outcome = .ok files ∧
      PhraseFile.templateOf files g.settings.inputDir g.settings.template = .ok template ∧
      g.loader d template.path = .ok declared ∧
      (moduleFile g.settings.classPrefix.lookupModule,
        LookupModule.source g.settings.classPrefix made.table (declared.map (·.1))) ∈
          made.outputs ∧
      ∀ c ∈ Bundle.classes made.bundles, ∃ f ∈ files, ∃ b ∈ files, ∃ own inherited,
        f.locale = c.locale ∧ b.locale = .default c.locale.language ∧
        g.loader d f.path = .ok own ∧ g.loader d b.path = .ok inherited ∧
        ∀ key,
          AccessorClass.resolve (Bundle.classes made.bundles) c.name key =
            (own.lookup key).or
              (if key ∈ declared.map (·.1) then inherited.lookup key else none) ∧
          (AccessorClass.resolve (Bundle.classes made.bundles) c.name key = none ↔
            key ∉ declared.map (·.1)) := by
  obtain ⟨st⟩ := stages_of_build h
  obtain rfl : st.reference = r := Except.ok.inj (st.reference_eq.symm.trans hr)
  refine ⟨st.files, st.template, st.templateSet.entries, st.files_eq, st.template_eq,
    st.loader_template, ?_, ?_⟩
  · rw [st.outputs_eq, outputs]
    exact List.mem_append_right _ (List.mem_cons_self ..)
  · intro c hc
    obtain ⟨b, hb, hbl, hresolve⟩ := st.exists_default plain hc
    obtain ⟨f, hf, hfl, hown⟩ := st.loader_class hc
    obtain ⟨f', hf', hfl', hinherited⟩ := st.loader_class hb
    refine ⟨f, hf, f', hf', c.members, b.members, hfl, hfl'.trans hbl, hown, hinherited, ?_⟩
    intro key
    obtain ⟨hknown, _⟩ := st.members_class hc
    obtain ⟨hknown', hcomplete'⟩ := st.members_class hb
    have hdefault : b.locale.isDefault = true := by
      rw [hbl]
      rfl
    rw [hresolve key, Option.or_eq_none_iff, lookup_eq_none_iff, lookup_eq_none_iff]
    by_cases hkey : key ∈ st.templateSet.entries.map (·.1)
    · rw [if_pos hkey]
      refine ⟨rfl, fun h => absurd (hcomplete' hdefault key hkey) h.2, fun h => absurd hkey h⟩
    · have hown : key ∉ c.members.map (·.1) := fun hk => hkey (hknown key hk)
      have hinherited : key ∉ b.members.map (·.1) := fun hk => hkey (hknown' key hk)
      rw [if_neg hkey, lookup_eq_none_iff.mpr hinherited]
      exact ⟨rfl, fun _ => hkey, fun _ => ⟨hown, hinherited⟩⟩

theorem resolve_complete_small :
    ∃ made, (small.build smallDisk).outcome = .ok made ∧
      small.reference = .ok smallReference ∧ smallReference.IsPlain ∧
      ∃ files template declared,
        (PhraseFile.inDirectory smallDisk small.settings.inputDir smallReference).outcome =
          .ok files ∧
        PhraseFile.templateOf files small.settings.inputDir small.settings.template =
          .ok template ∧
        small.loader smallDisk template.path = .ok declared ∧
        ∀ c ∈ Bundle.classes made.bundles, ∀ key,
          AccessorClass.resolve (Bundle.classes made.bundles) c.name key = none ↔
            key ∉ declared.map (·.1) := by
  obtain ⟨made, hmade⟩ := exists_build_small
  have plain : smallReference.IsPlain := ⟨by decide +kernel, by decide +kernel⟩
  obtain ⟨files, template, declared, hfiles, htemplate, hload, _, hclasses⟩ :=
    resolve_complete rfl plain hmade
  refine ⟨made, hmade, rfl, plain, files, template, declared, hfiles, htemplate, hload, ?_⟩
  intro c hc key
  obtain ⟨_, _, _, _, _, _, _, _, _, _, hkeys⟩ := hclasses c hc
  exact (hkeys key).2

end Generator

end Phrasebook
