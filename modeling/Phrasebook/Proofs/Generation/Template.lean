import Mathlib
import Phrasebook.Proofs.Emitted.LookupModule
import Phrasebook.Proofs.Generation.Contents

/-! What the choice of a template changes. Each of two templates keeps to the keys of the other, so
they declare the same keys, and the order of the abstract members is all that tells the packages
apart. -/

namespace Phrasebook

namespace Generator

variable {d : Disk} {s : Settings} {r : Reference} {made made' : Generated}

/-- The keys that the file of a template setting declares, in its order. -/
def Declares (s : Settings) (r : Reference) (d : Disk) (template : Text) (keys : List Text) :
    Prop :=
  ∃ files f entries, (PhraseFile.inDirectory d s.inputDir r).outcome = .ok files ∧
    PhraseFile.templateOf files s.inputDir template = .ok f ∧
    fileLoader d f.path = .ok entries ∧ keys = entries.map (·.1)

theorem Stages.declares (st : Stages (reading s r) d made) :
    Declares s r d s.template st.templateSet.keys :=
  ⟨st.files, st.template, _, st.found, st.template_eq, st.loads_template.entries, rfl⟩

theorem Stages.nodup_keys (st : Stages (reading s r) d made) : st.templateSet.keys.Nodup :=
  Phrases.nodup_keys_of_fileLoader st.loads_template.entries

/-- Each template is among the files that keep to the other one. -/
theorem Stages.keys_perm {s' : Settings} (st : Stages (reading s r) d made)
    (st' : Stages (reading s' r) d made') (hsets : st'.sets = st.sets) :
    st'.templateSet.keys.Perm st.templateSet.keys := by
  rw [List.perm_ext_iff_of_nodup st'.nodup_keys st.nodup_keys]
  exact fun key => ⟨(st.accepts _ (hsets ▸ st'.templateSet_mem)).known key,
    (st'.accepts _ (hsets ▸ st.templateSet_mem)).known key⟩

/-- Two templates with which a package can be made declare the same keys. The packages have the
same classes, groups and lookup table, and the same modules up to the lookup module, which differ
in the order of the abstract members alone. -/
theorem build_of_templates {t t' : Text}
    (h : ((reading { s with template := t } r).build d).outcome = .ok made)
    (h' : ((reading { s with template := t' } r).build d).outcome = .ok made') :
    ∃ keys keys', Declares s r d t keys ∧ Declares s r d t' keys' ∧ keys'.Perm keys ∧
      made'.groups = made.groups ∧ made'.bundles = made.bundles ∧ made'.table = made.table ∧
      ∃ modules index before after,
        made.outputs = modules ++ [(moduleFile s.classPrefix.lookupModule,
          before ++ abstractMembersSource keys ++ after), index] ∧
        made'.outputs = modules ++ [(moduleFile s.classPrefix.lookupModule,
          before ++ abstractMembersSource keys' ++ after), index] := by
  obtain ⟨st⟩ := stages_of_build h
  obtain ⟨st'⟩ := stages_of_build h'
  have hfiles : st'.files = st.files := Except.ok.inj (st'.found.symm.trans st.found)
  have hsets : st'.sets = st.sets := by
    have hloads := st'.loads
    rw [hfiles] at hloads
    exact List.right_unique_forall₂' (fun _ _ _ h h' => h.unique h') hloads st.loads
  have hgroups : made'.groups = made.groups := by
    rw [st.groups_eq, st'.groups_eq, hfiles]
  have hbundles : made'.bundles = made.bundles := by
    have hmade' := st'.bundles
    rw [hsets, hgroups] at hmade'
    exact Bundle.eq_of_ofGroups (Bundle.agree_self st.nodup_sets) hmade' st.bundles
  have htable : made'.table = made.table := by
    rw [st.table_eq, st'.table_eq, hgroups]
    rfl
  obtain ⟨before, after, hsource⟩ := LookupModule.exists_source s.classPrefix made.table
  refine ⟨_, _, st.declares, st'.declares, st.keys_perm st' hsets, hgroups, hbundles, htable,
    made.bundles.map (fun b => (moduleFile (s.classPrefix.moduleOf b.1),
      languageModuleSource s.classPrefix r b)),
    (packageFile, packageSource s.classPrefix), before, after, ?_, ?_⟩
  · rw [st.outputs_eq, st.reference_reading, ← hsource]
    rfl
  · rw [st'.outputs_eq, st'.reference_reading, hbundles, htable, ← hsource]
    rfl

/-- With the English file and with the French one as the template. -/
theorem build_of_templates_bilingual :
    ∃ made made',
      ((reading { settingsFor greetingDir "en" with template := "en" } bilingualReference).build
        (packed bilingual)).outcome = .ok made ∧
      ((reading { settingsFor greetingDir "en" with template := "fr" } bilingualReference).build
        (packed bilingual)).outcome = .ok made' ∧
      ∃ keys keys',
        Declares (settingsFor greetingDir "en") bilingualReference (packed bilingual) "en" keys ∧
        Declares (settingsFor greetingDir "en") bilingualReference (packed bilingual) "fr" keys' ∧
        keys'.Perm keys ∧
        made'.groups = made.groups ∧ made'.bundles = made.bundles ∧ made'.table = made.table ∧
        ∃ modules index before after,
          made.outputs = modules ++ [(moduleFile ClassPrefix.usual.lookupModule,
            before ++ abstractMembersSource keys ++ after), index] ∧
          made'.outputs = modules ++ [(moduleFile ClassPrefix.usual.lookupModule,
            before ++ abstractMembersSource keys' ++ after), index] := by
  obtain ⟨made, hmade⟩ := exists_build_bilingual (.inl rfl)
  obtain ⟨made', hmade'⟩ := exists_build_bilingual (.inr rfl)
  exact ⟨made, made', hmade, hmade', build_of_templates hmade hmade'⟩

end Generator

end Phrasebook
