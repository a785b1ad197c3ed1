import Mathlib
import Phrasebook.Emitted.LookupModule
import Phrasebook.Proofs.ClassNames
import Phrasebook.Proofs.Emitted.LookupTable
import Phrasebook.Proofs.Locale.Code
import Phrasebook.Proofs.Locale.Groups

/-! Requests as the emitted module splits them. The table cuts blanks at the ends of a code, and
the module does not; this apart, both find the same class for every request. -/

namespace Phrasebook

namespace LookupModule

def hyphen : CodePoint := '-'

/-- The code with an underscore for every hyphen. -/
def underscored (code : Text) : Text :=
  code.map fun c => if c = hyphen then Locale.separator else c

/-- The language and the region that the emitted module reads off a requested locale: what follows a
dot is dropped, hyphens become underscores, and the region is all that follows the first. -/
def splitRequest (request : Text) : Text × Option Text :=
  let code := underscored (request.before '.')
  let region := Text.upper (code.after Locale.separator)
  (Text.lower (code.before Locale.separator), if region = [] then none else some region)

/-- The class that the emitted module finds for a requested locale. -/
def answer (t : LookupTable) (request : Text) : Except Failure LookupTarget :=
  t.resolve (splitRequest request).1 (splitRequest request).2

/-- Whether the emitted module lists the language of a requested locale. -/
def supports (t : LookupTable) (request : Text) : Bool :=
  t.supportedLanguages.contains (splitRequest request).1

/-- The code that a request names, without the blanks at its ends. -/
def bareCode (request : Text) : Text :=
  (request.before '.').trim CodePoint.isBlank

theorem splitRequest_of_eq {request code : Text} (h : code = request.before '.') :
    splitRequest code = splitRequest request := by
  have hbefore : code.before '.' = request.before '.' := by
    rw [h]
    exact Text.before_of_notMem (Text.notMem_before _ _)
  rw [splitRequest, splitRequest, hbefore]

theorem before_bareCode (request : Text) : (bareCode request).before '.' = bareCode request :=
  Text.before_of_notMem fun h => Text.notMem_before _ _ (Text.mem_of_mem_trim h)

/-- With underscores only, a code is its parts, joined. -/
theorem underscored_eq (code : Text) : underscored code =
    Text.joined [Locale.separator] (code.splitWhere Locale.isSeparator) := by
  rw [Text.joined_splitWhere, underscored]
  apply List.map_congr_left
  intro c _
  by_cases hc : c = hyphen
  · rw [if_pos hc, if_pos (by rw [hc]; decide)]
  · by_cases hs : c = Locale.separator
    · rw [if_neg hc, if_pos (by rw [hs]; decide), hs]
    · have hmark : Locale.isSeparator c = false := by
        simp only [Locale.isSeparator, Bool.or_eq_false_iff, beq_eq_false_iff_ne]
        exact ⟨hc, hs⟩
      rw [if_neg hc, hmark, if_neg (by decide)]

/-! ### The two ways of splitting -/

theorem separator_mem_upper {t : Text} (h : Locale.separator ∈ t) :
    Locale.separator ∈ t.upper := by
  apply List.mem_flatMap.mpr
  exact ⟨_, h, by decide⟩

/-- Both ways of splitting a bare code give the same language, and the same region or one with a
separator, which no locale has. -/
theorem splitRequest_cases (request : Text) :
    LookupTable.splitRequest request = splitRequest (bareCode request) ∨
    ∃ language region region',
      LookupTable.splitRequest request = (language, some region) ∧
      splitRequest (bareCode request) = (language, some region') ∧
      Locale.separator ∈ region ∧ Locale.separator ∈ region' := by
  have hsubtags : Locale.subtags (request.before '.') =
      (bareCode request).splitWhere Locale.isSeparator := rfl
  obtain ⟨tag, rest, hparts⟩ := List.exists_cons_of_ne_nil
    (Text.splitWhere_ne_nil Locale.isSeparator (bareCode request))
  have hmem : tag ∈ (bareCode request).splitWhere Locale.isSeparator := by simp [hparts]
  have hunmarked := Text.not_mark_of_mem_splitWhere hmem
  have htag : Locale.separator ∉ tag := fun h => absurd (hunmarked _ h) (by decide)
  have htag' : Locale.separator ∉ tag.lower := Locale.separator_notMem_lower hunmarked
  unfold LookupTable.splitRequest splitRequest
  rw [Locale.normalize, hsubtags, before_bareCode, underscored_eq, hparts]
  dsimp only
  rw [Text.before_joined htag, Text.after_joined htag]
  cases rest with
  | nil =>
    left
    simp [Text.joined, Text.before_of_notMem, Text.after_of_notMem, htag', Text.upper]
  | cons sub more =>
    dsimp only
    rw [Text.before_joined htag', Text.after_joined htag']
    cases more with
    | nil =>
      left
      simp [Text.joined]
    | cons second more =>
      -- a third subtag leaves a separator in both regions
      right
      have hjoined (x : Text) :
          Locale.separator ∈ Text.joined [Locale.separator] (x :: second :: more) := by
        simp [Text.joined_cons]
      have hregion := hjoined sub.upper
      have hregion' := separator_mem_upper (hjoined sub)
      rw [if_neg (List.ne_nil_of_mem hregion), if_neg (List.ne_nil_of_mem hregion')]
      exact ⟨tag.lower, _, _, rfl, rfl, hregion, hregion'⟩

/-! ### Answers -/

/-- Both find the same class, or both report the locale as unsupported. -/
def Agree (x y : Except Failure LookupTarget) : Prop :=
  (∃ target, x = .ok target ∧ y = .ok target) ∨
    ∃ code code', x = .error (.unsupportedLocale code) ∧ y = .error (.unsupportedLocale code')

theorem agree_of_eq {t : LookupTable} {language : Text} {region : Option Text} :
    Agree (t.resolve language region) (t.resolve language region) := by
  cases h : t.resolve language region with
  | ok target => exact .inl ⟨target, rfl, rfl⟩
  | error f =>
    obtain ⟨code, hcode⟩ := LookupTable.toOption_resolve_eq_none_iff.mp (by rw [h]; rfl)
    obtain rfl := Except.error.inj (h.symm.trans hcode)
    exact .inr ⟨code, code, rfl, rfl⟩

/-- Regions that the table does not list make no difference. -/
theorem agree_of_unlisted {t : LookupTable} {language region region' : Text}
    (h : t.byRegion.lookup (language, region) = none)
    (h' : t.byRegion.lookup (language, region') = none) :
    Agree (t.resolve language (some region)) (t.resolve language (some region')) := by
  simp only [LookupTable.resolve, Option.bind_some, h, h']
  cases t.byLanguage.lookup language with
  | some target => exact .inl ⟨target, rfl, rfl⟩
  | none => exact .inr ⟨_, _, rfl, rfl⟩

theorem lookup_byLanguage_isSome (t : LookupTable) (language : Text) :
    (t.byLanguage.lookup language).isSome = t.supportedLanguages.contains language := by
  rw [Bool.eq_iff_iff, lookup_isSome_iff, List.contains_iff_mem, LookupTable.supportedLanguages]

variable {inputDir : Text} {ls : List Locale} {gs : List LanguageGroup}

/-- A table lists the languages whose defaults are among the locales. -/
theorem supportsLanguage_iff {p : ClassPrefix} {language : Text} :
    ((LookupTable.ofGroups p (Groups.ofLocales ls)).byLanguage.lookup language).isSome = true ↔
      Locale.default language ∈ ls := by
  rw [← Groups.mem_locales_ofLocales, LookupTable.lookup_byLanguage]
  split_ifs with hl <;> simp [hl]

/-- Locales of files have no region with a separator, so a table of them lists none. -/
theorem lookup_byRegion_of_separator (p : ClassPrefix)
    (parsed : ∀ l ∈ ls, ∃ r path, Locale.ofPath r path = .ok l)
    {language region : Text} (h : Locale.separator ∈ region) :
    (LookupTable.ofGroups p (Groups.ofLocales ls)).byRegion.lookup (language, region) = none := by
  rw [LookupTable.lookup_byRegion, if_neg]
  intro hl
  obtain ⟨r, path, hparse⟩ := parsed _ (Groups.mem_locales_ofLocales.mp hl)
  exact Locale.separator_notMem_region hparse rfl h

/-- The table answers every request as the module answers its bare code. -/
theorem agree_bareCode (p : ClassPrefix)
    (parsed : ∀ l ∈ ls, ∃ r path, Locale.ofPath r path = .ok l) (request : Text) :
    Agree ((LookupTable.ofGroups p (Groups.ofLocales ls)).resolveCode request)
        (answer (LookupTable.ofGroups p (Groups.ofLocales ls)) (bareCode request)) ∧
      (LookupTable.ofGroups p (Groups.ofLocales ls)).supports request =
        supports (LookupTable.ofGroups p (Groups.ofLocales ls)) (bareCode request) := by
  unfold LookupTable.resolveCode answer LookupTable.supports supports
  rw [lookup_byLanguage_isSome]
  rcases splitRequest_cases request with heq | ⟨language, region, region', h, h', hs, hs'⟩
  · rw [heq]
    exact ⟨agree_of_eq, rfl⟩
  · rw [h, h']
    exact ⟨agree_of_unlisted (lookup_byRegion_of_separator p parsed hs)
      (lookup_byRegion_of_separator p parsed hs'), rfl⟩

/-- The emitted module answers every request as the table does, if no blanks stand at the ends of
the requested code; in any case it answers the bare code so. -/
theorem resolveCode_agrees (p : ClassPrefix)
    (parsed : ∀ l ∈ ls, ∃ r path, Locale.ofPath r path = .ok l)
    (h : (Groups.build inputDir ls).outcome = .ok gs) (request : Text) :
    (bareCode request = request.before '.' →
      Agree ((LookupTable.ofGroups p gs).resolveCode request)
          (answer (LookupTable.ofGroups p gs) request) ∧
        (LookupTable.ofGroups p gs).supports request =
          supports (LookupTable.ofGroups p gs) request) ∧
    Agree ((LookupTable.ofGroups p gs).resolveCode request)
        (answer (LookupTable.ofGroups p gs) (bareCode request)) ∧
      (LookupTable.ofGroups p gs).supports request =
        supports (LookupTable.ofGroups p gs) (bareCode request) := by
  obtain ⟨rfl, _⟩ := Groups.build_ok_iff.mp h
  have hbare := agree_bareCode p parsed request
  refine ⟨?_, hbare⟩
  intro hrequest
  have hsplit := splitRequest_of_eq hrequest
  rwa [answer, supports, hsplit] at hbare

/-! ### French -/

def frenchReference : Reference where
  languages := [("fr", "French")]
  regions := [("CA", "Canada")]

def frenchLocales : List Locale :=
  [⟨"fr", none⟩, ⟨"fr", some "CA"⟩]

theorem parsed_french : ∀ l ∈ frenchLocales, ∃ r path, Locale.ofPath r path = .ok l := by
  rw [frenchLocales, List.forall_mem_cons, List.forall_mem_singleton]
  exact ⟨⟨frenchReference, ⟨.relative, ["fr.json"]⟩, by decide⟩,
    ⟨frenchReference, ⟨.relative, ["fr-CA.json"]⟩, by decide⟩⟩

theorem build_french : (Groups.build "phrases" frenchLocales).outcome =
    .ok (Groups.ofLocales frenchLocales) :=
  Groups.build_ok_iff.mpr ⟨rfl, by decide⟩

theorem resolveCode_agrees_french :
    (∀ l ∈ frenchLocales, ∃ r path, Locale.ofPath r path = .ok l) ∧
    (Groups.build "phrases" frenchLocales).outcome = .ok (Groups.ofLocales frenchLocales) ∧
    bareCode "FR-ca.UTF-8" = Text.before '.' "FR-ca.UTF-8" ∧
    Agree ((LookupTable.ofGroups .usual (Groups.ofLocales frenchLocales)).resolveCode "FR-ca.UTF-8")
      (answer (LookupTable.ofGroups .usual (Groups.ofLocales frenchLocales)) "FR-ca.UTF-8") := by
  have hbare : bareCode "FR-ca.UTF-8" = Text.before '.' "FR-ca.UTF-8" := by decide
  have hagree := resolveCode_agrees .usual parsed_french build_french "FR-ca.UTF-8"
  exact ⟨parsed_french, build_french, hbare, (hagree.1 hbare).1⟩

/-- With a blank in front, the table finds the French class and the emitted module none. -/
theorem not_agree_blank :
    (∀ l ∈ frenchLocales, ∃ r path, Locale.ofPath r path = .ok l) ∧
    (Groups.build "phrases" frenchLocales).outcome = .ok (Groups.ofLocales frenchLocales) ∧
    ¬Agree ((LookupTable.ofGroups .usual (Groups.ofLocales frenchLocales)).resolveCode " fr")
      (answer (LookupTable.ofGroups .usual (Groups.ofLocales frenchLocales)) " fr") ∧
    (LookupTable.ofGroups .usual (Groups.ofLocales frenchLocales)).supports " fr" = true ∧
    supports (LookupTable.ofGroups .usual (Groups.ofLocales frenchLocales)) " fr" = false := by
  have htable : LookupTable.splitRequest " fr" = (Text.ofString "fr", none) := by decide
  have hmodule : splitRequest " fr" = (Text.ofString " fr", none) := by decide
  have hlisted : (LookupTable.ofGroups .usual (Groups.ofLocales frenchLocales)).supports " fr" =
      true := by
    rw [LookupTable.supports, htable, supportsLanguage_iff]
    decide
  have hunlisted : supports (LookupTable.ofGroups .usual (Groups.ofLocales frenchLocales)) " fr" =
      false := by
    rw [supports, hmodule, ← lookup_byLanguage_isSome, ← Bool.not_eq_true, supportsLanguage_iff]
    decide
  refine ⟨parsed_french, build_french, ?_, hlisted, hunlisted⟩
  rw [LookupTable.supports, htable] at hlisted
  rw [supports, hmodule, ← lookup_byLanguage_isSome, Option.isSome_eq_false_iff,
    Option.isNone_iff_eq_none] at hunlisted
  obtain ⟨target, htarget⟩ := Option.isSome_iff_exists.mp hlisted
  rw [LookupTable.resolveCode, answer, htable, hmodule]
  simp only [LookupTable.resolve, Option.bind_none, htarget, hunlisted]
  simp [Agree]

end LookupModule
end Phrasebook
