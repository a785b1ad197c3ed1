import Phrasebook.Emitted.AccessorClass

/-!
The module of a language: the classes of its locales.
-/

namespace Phrasebook

inductive LanguageModuleSlot where
  | header
  | languageName
  | language
  | lookupModule
  | base
  | exports
  | classes
deriving DecidableEq

instance : Slot LanguageModuleSlot where
  label
    | .header => "header"
    | .languageName => "language_name"
    | .language => "language"
    | .lookupModule => "module"
    | .base => "base"
    | .exports => "exports"
    | .classes => "classes"
  label_injective s s' := by cases s <;> cases s' <;> decide

def languageModuleSkeleton : Skeleton LanguageModuleSlot :=
  [.fixed "\"\"\"", .slot .header, .fixed "\n\nTranslations for ", .slot .languageName,
    .fixed " (``", .slot .language,
    .fixed "``).\n\"\"\"\n\nfrom __future__ import annotations\n\nfrom .", .slot .lookupModule,
    .fixed " import ", .slot .base, .fixed "\n\n__all__ = [\n", .slot .exports,
    .fixed "]\n\n\n", .slot .classes]

def exportLine (c : AccessorClass) : Text :=
  "    " ++ c.name.quoted ++ ",\n"

def languageModuleSource (p : ClassPrefix) (r : Reference) (b : Bundle) : Text :=
  languageModuleSkeleton.fill fun
    | .header => heading
    | .languageName => r.languageName b.1
    | .language => b.1
    | .lookupModule => p.lookupModule
    | .base => p.base
    | .exports => b.2.flatMap exportLine
    | .classes => Text.joined "\n\n" (b.2.map fun c => c.source r)

end Phrasebook
