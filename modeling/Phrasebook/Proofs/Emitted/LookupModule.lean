import Mathlib
import Phrasebook.Emitted.LookupModule
import Phrasebook.Proofs.Emitted.Skeleton

/-! Where the keys stand in the lookup module: its skeleton has one slot for the abstract
members. -/

namespace Phrasebook.LookupModule

/-- What stands in the slots of the lookup module. -/
def content (p : ClassPrefix) (t : LookupTable) (keys : List Text) : LookupModuleSlot → Text
  | .header => heading
  | .localeList => Text.joined ", " (t.locales.map Locale.canonical)
  | .base => p.base
  | .delegate => p.delegate
  | .lookup => p.lookup
  | .supportedLocales => t.supportedLocales.flatMap supportedLine
  | .supportedLanguages => Text.joined ", " (t.supportedLanguages.map Text.quoted)
  | .abstractMembers => abstractMembersSource keys
  | .lookupBody => t.lookupBody

theorem source_eq_fill (p : ClassPrefix) (t : LookupTable) (keys : List Text) :
    source p t keys = skeleton.fill (content p t keys) := rfl

/-- The abstract members stand in one place of the lookup module, and nothing else in it depends
on the keys. -/
theorem exists_source (p : ClassPrefix) (t : LookupTable) :
    ∃ before after, ∀ keys, source p t keys = before ++ abstractMembersSource keys ++ after := by
  have hpieces : skeleton = (opening ++ support ++ requests ++ abstractBase.take 3) ++
      .slot .abstractMembers :: (abstractBase.drop 4 ++ lookup ++ delegate) := by
    simp [skeleton, abstractBase]
  refine ⟨Skeleton.fill (content p t []) (opening ++ support ++ requests ++ abstractBase.take 3),
    Skeleton.fill (content p t []) (abstractBase.drop 4 ++ lookup ++ delegate), fun keys => ?_⟩
  rw [source_eq_fill, hpieces]
  apply Skeleton.fill_slot_between
  · simp [opening, support, requests, abstractBase]
  · simp [abstractBase, lookup, delegate]
  · intro s hs
    cases s with
    | abstractMembers => exact absurd rfl hs
    | _ => rfl

end Phrasebook.LookupModule
