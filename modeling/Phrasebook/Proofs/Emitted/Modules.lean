import Mathlib
import Phrasebook.Emitted.LanguageModule
import Phrasebook.Emitted.LookupModule
import Phrasebook.Proofs.Emitted.Skeleton
import Phrasebook.Proofs.Text.Encodable

/-! Emitted modules can be encoded as soon as the names in them can: the texts of the phrases are
quoted, so whatever they hold is no obstacle. -/

namespace Phrasebook

variable {p : ClassPrefix}

theorem isEncodable_heading : heading.IsEncodable :=
  Text.isEncodable_ofString _

theorem isEncodable_memberSource {key : Text} (h : key.IsEncodable) (value : Text) :
    (memberSource key value).IsEncodable := by
  simp [memberSource, memberSkeleton, h]

theorem isEncodable_abstractMembersSource {keys : List Text} (h : ∀ key ∈ keys, key.IsEncodable) :
    (abstractMembersSource keys).IsEncodable := by
  rw [abstractMembersSource, Text.isEncodable_flatMap]
  intro key hkey
  simp [abstractMemberSkeleton, h key hkey]

/-- Names without surrogates in a class. -/
structure AccessorClass.IsEncodable (r : Reference) (c : AccessorClass) : Prop where
  name : c.name.IsEncodable
  parent : c.parent.IsEncodable
  canonical : c.locale.canonical.IsEncodable
  words : (r.inWords c.locale).IsEncodable
  keys : ∀ member ∈ c.members, Text.IsEncodable member.1

theorem AccessorClass.IsEncodable.source {r : Reference} {c : AccessorClass}
    (h : c.IsEncodable r) : (c.source r).IsEncodable := by
  have hmembers : c.membersSource.IsEncodable := by
    rw [membersSource, Text.isEncodable_flatMap]
    exact fun member hmember => isEncodable_memberSource (h.keys member hmember) member.2
  have hdescription : (c.description r).IsEncodable := by
    simp [description, h.words, h.canonical]
  have hparameters : Text.IsEncodable (if c.locale.isDefault then
      ", locale_name: str = " ++ c.locale.language.quoted else []) := by
    split_ifs <;> simp
  have harguments : Text.IsEncodable (if c.locale.isDefault then
      (Text.ofString "locale_name") else c.locale.canonical.quoted) := by
    split_ifs <;> simp
  simp [AccessorClass.source, classSkeleton, h.name, h.parent, hdescription, hparameters,
    harguments, hmembers]

theorem isEncodable_languageModuleSource {r : Reference} {b : Bundle} (hp : p.text.IsEncodable)
    (hmodule : p.lookupModule.IsEncodable) (hlanguage : b.1.IsEncodable)
    (hname : (r.languageName b.1).IsEncodable)
    (hclasses : ∀ c ∈ b.2, AccessorClass.IsEncodable r c) :
    (languageModuleSource p r b).IsEncodable := by
  have hbase : p.base.IsEncodable := hp
  have hexports : Text.IsEncodable (b.2.flatMap exportLine) := by
    rw [Text.isEncodable_flatMap]
    intro c _
    simp [exportLine]
  have hsources : (Text.joined "\n\n" (b.2.map fun c => c.source r)).IsEncodable := by
    apply Text.isEncodable_joined (Text.isEncodable_ofString _)
    intro source hsource
    obtain ⟨c, hc, rfl⟩ := List.mem_map.mp hsource
    exact (hclasses c hc).source
  simp [languageModuleSource, languageModuleSkeleton, isEncodable_heading, hbase, hmodule,
    hlanguage, hname, hexports, hsources]

/-- Names without surrogates in an entry of the lookup. -/
structure LookupTarget.IsEncodable (t : LookupTarget) : Prop where
  className : t.className.IsEncodable
  moduleName : t.moduleName.IsEncodable

theorem isEncodable_lookupBody {t : LookupTable}
    (hregion : ∀ e ∈ t.byRegion, e.2.IsEncodable)
    (hlanguage : ∀ e ∈ t.byLanguage, e.2.IsEncodable) : t.lookupBody.IsEncodable := by
  have hregionCase : ∀ e ∈ t.byRegion, (LookupTable.regionCase e).IsEncodable := by
    intro e he
    simp [LookupTable.regionCase, regionCaseSkeleton, (hregion e he).className,
      (hregion e he).moduleName]
  have hlanguageCase : ∀ e ∈ t.byLanguage, (LookupTable.languageCase e).IsEncodable := by
    intro e he
    simp [LookupTable.languageCase, languageCaseSkeleton, (hlanguage e he).className,
      (hlanguage e he).moduleName]
  have hregionMatch : t.regionMatch.IsEncodable := by
    rw [LookupTable.regionMatch]
    split_ifs
    · exact Text.isEncodable_nil
    · simpa using hregionCase
  simpa [LookupTable.lookupBody, LookupTable.languageMatch, hregionMatch] using hlanguageCase

theorem isEncodable_packageSource (hp : p.text.IsEncodable)
    (hmodule : p.lookupModule.IsEncodable) : (packageSource p).IsEncodable := by
  have hbase : p.base.IsEncodable := hp
  simp [packageSource, packageSkeleton, isEncodable_heading, hbase, hmodule, hp,
    ClassPrefix.delegate, ClassPrefix.lookup]

theorem LookupModule.isEncodable_source {t : LookupTable} {keys : List Text}
    (hp : p.text.IsEncodable) (hmodule : p.lookupModule.IsEncodable)
    (hlocales : ∀ l ∈ t.locales, l.canonical.IsEncodable)
    (hregion : ∀ e ∈ t.byRegion, e.2.IsEncodable)
    (hlanguage : ∀ e ∈ t.byLanguage, e.2.IsEncodable) (hkeys : ∀ key ∈ keys, key.IsEncodable) :
    (source p t keys).IsEncodable := by
  have hbase : p.base.IsEncodable := hp
  have hlist : (Text.joined ", " (t.locales.map Locale.canonical)).IsEncodable := by
    apply Text.isEncodable_joined (Text.isEncodable_ofString _)
    intro code hcode
    obtain ⟨l, hl, rfl⟩ := List.mem_map.mp hcode
    exact hlocales l hl
  have hlanguages : (Text.joined ", " (t.supportedLanguages.map Text.quoted)).IsEncodable := by
    apply Text.isEncodable_joined (Text.isEncodable_ofString _)
    intro code hcode
    obtain ⟨language, _, rfl⟩ := List.mem_map.mp hcode
    exact Text.isEncodable_quoted language
  have hlines : Text.IsEncodable (t.supportedLocales.flatMap supportedLine) := by
    rw [Text.isEncodable_flatMap]
    rintro ⟨language, region⟩ _
    cases region <;> simp [supportedLine, Text.quotedOrNone]
  simp [source, skeleton, opening, support, requests, abstractBase, LookupModule.lookup,
    LookupModule.delegate, isEncodable_heading, hbase, hmodule, hp, hlist, hlanguages, hlines,
    isEncodable_abstractMembersSource hkeys, isEncodable_lookupBody hregion hlanguage,
    ClassPrefix.delegate, ClassPrefix.lookup]

end Phrasebook
