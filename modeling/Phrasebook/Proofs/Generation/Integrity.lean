import Mathlib
import Phrasebook.Proofs.ClassNames
import Phrasebook.Proofs.Emitted.LookupTable
import Phrasebook.Proofs.Emitted.Skeleton
import Phrasebook.Proofs.Generation.Stages

/-! Integrity of packages. The table and the classes are made apart from each other, but with plain
tables they name the same classes in the same modules, and no two files have the same name. -/

namespace Phrasebook

theorem moduleFile_inj {x y : Text} (h : moduleFile x = moduleFile y) : x = y :=
  List.append_cancel_right h

/-- The file of the package's index is that of no module whose name begins with a letter. -/
theorem moduleFile_ne_packageFile {c : CodePoint} {t : Text} (hc : c.isLetter = true) :
    moduleFile (c :: t) ≠ packageFile := by
  intro h
  have hhead : c = Identifier.underscore := (List.cons.inj h).1
  rw [hhead] at hc
  exact absurd hc (by decide)

namespace Generator

namespace Stages

variable {g : Generator} {d : Disk} {made : Generated} (st : Stages g d made)
include st

theorem map_language : made.bundles.map (·.1) =
    Groups.sorted ((st.files.map (·.locale)).map (·.language)) := by
  rw [Bundle.map_language st.bundles, st.groups_eq, Groups.map_language_ofLocales]

theorem outputs_names : made.outputs.map (·.1) =
    made.bundles.map (fun b => moduleFile (g.settings.classPrefix.moduleOf b.1)) ++
      [moduleFile g.settings.classPrefix.lookupModule, packageFile] := by
  rw [st.outputs_eq, Generator.outputs, List.map_append, List.map_map]
  rfl

theorem nodup_outputs : (made.outputs.map (·.1)).Nodup := by
  obtain ⟨c, t, hmodule, hc, _⟩ := g.settings.classPrefix.lookupModule_eq_cons
  have hlanguages : (made.bundles.map (·.1)).Nodup := by
    rw [st.map_language]
    exact Groups.nodup_sorted _
  have hmap : made.bundles.map (fun b => moduleFile (g.settings.classPrefix.moduleOf b.1)) =
      (made.bundles.map (·.1)).map fun language =>
        moduleFile (g.settings.classPrefix.moduleOf language) := by
    rw [List.map_map]
    rfl
  rw [st.outputs_names, hmap, List.nodup_append]
  refine ⟨?_, ?_, ?_⟩
  · apply hlanguages.map
    intro x y hxy
    exact ClassPrefix.moduleOf_inj (moduleFile_inj hxy)
  · rw [hmodule]
    simpa using moduleFile_ne_packageFile hc
  · intro name hname name' hname'
    obtain ⟨language, _, rfl⟩ := List.mem_map.mp hname
    rcases List.mem_pair.mp hname' with rfl | rfl
    · intro h
      exact ClassPrefix.moduleOf_ne_lookupModule language (moduleFile_inj h)
    · rw [ClassPrefix.moduleOf, hmodule]
      exact moduleFile_ne_packageFile hc

end Stages

variable {g : Generator} {d : Disk} {made : Generated} {r : Reference}

end Generator

end Phrasebook
