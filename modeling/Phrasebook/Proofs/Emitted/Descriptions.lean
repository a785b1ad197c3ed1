import Mathlib
import Phrasebook.Emitted.LanguageModule
import Phrasebook.Proofs.Emitted.Skeleton
import Phrasebook.Proofs.Emitted.Tripled

/-! The descriptions of emitted classes and of the modules of languages. The names of languages and
regions are put into them as they are, so a description is what is read back exactly if these names
and the code of the locale are verbatim. -/

namespace Phrasebook

open Source

/-- What stands before the description of a class. -/
def AccessorClass.header (c : AccessorClass) : Text :=
  "class " ++ c.name ++ "(" ++ c.parent ++ "):\n    "

/-- The description of the module of a language. -/
def moduleDescription (r : Reference) (language : Text) : Text :=
  heading ++ "\n\nTranslations for " ++ r.languageName language ++ " (``" ++ language ++ "``).\n"

/-- Whether the names that the tables have for a locale, and its code, stand for themselves in a
literal. -/
structure Reference.SpellsVerbatim (r : Reference) (l : Locale) : Prop where
  language : IsVerbatim (r.languageName l.language)
  region : ∀ region, l.region = some region → IsVerbatim (r.regionName region)
  code : IsVerbatim l.canonical

variable {r : Reference} {l : Locale}

theorem keepsApart_codeMark : keepsApart " (``" = true := by
  decide

theorem isVerbatim_inWords : IsVerbatim (r.inWords l) ↔ IsVerbatim (r.languageName l.language) ∧
    ∀ region, l.region = some region → IsVerbatim (r.regionName region) := by
  have hapart : keepsApart ", as used in " = true := by decide
  obtain ⟨language, region⟩ := l
  cases region with
  | none => simp [Reference.inWords]
  | some region =>
    simp only [Reference.inWords]
    rw [List.append_assoc, isVerbatim_append_apart hapart]
    simp

/-- Nothing that a fixed text of a description begins can be an escape, nor go on with the marks
that stand before it. -/
theorem isVerbatim_description (c : AccessorClass) (r : Reference) :
    IsVerbatim (c.description r) ↔ r.SpellsVerbatim c.locale := by
  have hbegin : ∀ c ∈ Text.ofString "The translation for ", isPlainChar c = true := by decide
  have hend : keepsApart "``)." = true := by decide
  rw [AccessorClass.description]
  simp only [List.append_assoc]
  rw [isVerbatim_plain_append hbegin, isVerbatim_append_apart keepsApart_codeMark,
    isVerbatim_inWords, ← List.append_nil (Text.ofString "``)."), isVerbatim_append_apart hend]
  constructor
  · rintro ⟨⟨hlanguage, hregion⟩, hcode, _⟩
    exact ⟨hlanguage, hregion, hcode⟩
  · rintro ⟨hlanguage, hregion, hcode⟩
    exact ⟨⟨hlanguage, hregion⟩, hcode, isVerbatim_nil⟩

theorem isVerbatim_moduleDescription (r : Reference) (language : Text) :
    IsVerbatim (moduleDescription r language) ↔
      IsVerbatim (r.languageName language) ∧ IsVerbatim language := by
  have hbegin : ∀ c ∈ heading ++ "\n\nTranslations for ", isPlainChar c = true := by decide
  have hend : keepsApart "``).\n" = true := by decide
  rw [moduleDescription]
  simp only [List.append_assoc]
  rw [← List.append_assoc heading, isVerbatim_plain_append hbegin,
    isVerbatim_append_apart keepsApart_codeMark, ← List.append_nil (Text.ofString "``).\n"),
    isVerbatim_append_apart hend]
  simp [isVerbatim_nil]

theorem AccessorClass.exists_source (c : AccessorClass) (r : Reference) :
    ∃ rest, c.source r = c.header ++ (tripled (c.description r) ++ rest) := by
  simp [source, classSkeleton, header, tripled, tripleMark, Text.ofString]

theorem exists_languageModuleSource (p : ClassPrefix) (r : Reference) (b : Bundle) :
    ∃ rest, languageModuleSource p r b = tripled (moduleDescription r b.1) ++ rest := by
  simp [languageModuleSource, languageModuleSkeleton, moduleDescription, tripled, tripleMark,
    Text.ofString]

/-- A description is the literal of several lines that it should be, up to the marks that end it,
exactly if the names in it are verbatim. This holds of every class, with the names of its locale,
and of every module of a language, whatever `named` knows of the names of characters. -/
theorem descriptions_faithful_iff (named : Text → Option CodePoint) (r : Reference) :
    (∀ c : AccessorClass, ∃ rest,
      c.source r = c.header ++ (tripled (c.description r) ++ rest) ∧
      (readTripled named (tripled (c.description r) ++ rest) = some (c.description r, rest) ↔
        r.SpellsVerbatim c.locale)) ∧
    ∀ p b, ∃ rest,
      languageModuleSource p r b = tripled (moduleDescription r b.1) ++ rest ∧
      (readTripled named (languageModuleSource p r b) = some (moduleDescription r b.1, rest) ↔
        IsVerbatim (r.languageName b.1) ∧ IsVerbatim b.1) := by
  constructor
  · intro c
    obtain ⟨rest, hsource⟩ := c.exists_source r
    have hend : c.description r = "The translation for " ++ r.inWords c.locale ++ " (``" ++
        c.locale.canonical ++ "``)" ++ [('.' : CodePoint)] := by
      simp only [AccessorClass.description, List.append_assoc]
      rfl
    refine ⟨rest, hsource, ?_⟩
    rw [readTripled_tripled_iff hend (by decide) (by decide), isVerbatim_description]
  · intro p b
    obtain ⟨rest, hsource⟩ := exists_languageModuleSource p r b
    have hend : moduleDescription r b.1 = heading ++ "\n\nTranslations for " ++
        r.languageName b.1 ++ " (``" ++ b.1 ++ "``)." ++ [('\n' : CodePoint)] := by
      simp only [moduleDescription, List.append_assoc]
      rfl
    refine ⟨rest, hsource, ?_⟩
    rw [hsource, readTripled_tripled_iff hend (by decide) (by decide),
      isVerbatim_moduleDescription]

/-- A table with a name that ends the literal it is put into. -/
def markedReference : Reference :=
  ⟨[("en", "English\"\"\"")], []⟩

def markedClass : AccessorClass :=
  ⟨"L10nEn", "L10n", ⟨"en", none⟩, []⟩

theorem not_faithful_marked : ∃ rest,
    markedClass.source markedReference =
      markedClass.header ++ (tripled (markedClass.description markedReference) ++ rest) ∧
    readTripled (fun _ => none) (tripled (markedClass.description markedReference) ++ rest) =
      some (Text.ofString "The translation for English", " (``en``).\"\"\"" ++ rest) ∧
    markedClass.description markedReference ≠ "The translation for English" := by
  obtain ⟨rest, hsource⟩ := markedClass.exists_source markedReference
  have hname : IsVerbatim "The translation for English" := isVerbatim_of_plain (by decide)
  have hend : Text.ofString "The translation for English" =
      "The translation for Englis" ++ [('h' : CodePoint)] := rfl
  have hread : readTripled (fun _ => none)
      (tripled "The translation for English" ++ (" (``en``).\"\"\"" ++ rest)) =
        some (Text.ofString "The translation for English", " (``en``).\"\"\"" ++ rest) :=
    (readTripled_tripled_iff hend (by decide) (by decide) _).mpr hname
  exact ⟨rest, hsource, hread, by decide⟩

end Phrasebook
