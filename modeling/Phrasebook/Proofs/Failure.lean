import Mathlib
import Phrasebook.Failure.Report

/-! Reports of failures. The kind of a failure, its particulars and the number of its code tell a
caller the same. -/

namespace Phrasebook.Failure

variable {k k' k'' : Kind} {f : Failure} {c : Content} {d : Diagnostic}

/-! ### Kinds -/

namespace Kind

theorem mem_lineage_self (k : Kind) : k ∈ k.lineage := by
  cases k <;> decide

theorem any_mem_lineage (k : Kind) : .any ∈ k.lineage := by
  cases k <;> decide

/-- The kinds form a tree: the lineage of a kind ends with that of each kind in it. -/
theorem lineage_suffix (h : k ∈ k'.lineage) : k.lineage <:+ k'.lineage := by
  revert h k
  show ∀ k ∈ k'.lineage, k.lineage <:+ k'.lineage
  cases k' <;> decide

theorem mem_lineage_trans (h : k ∈ k'.lineage) (h' : k' ∈ k''.lineage) : k ∈ k''.lineage :=
  (lineage_suffix h').subset h

theorem mem_lineage_antisymm (h : k ∈ k'.lineage) (h' : k' ∈ k.lineage) : k = k' := by
  have hlineage : k.lineage = k'.lineage :=
    (lineage_suffix h).eq_of_length_le (lineage_suffix h').length_le
  have hhead (k : Kind) : k.lineage.head? = some k := by
    cases k <;> rfl
  exact Option.some.inj (by rw [← hhead k, hlineage, hhead k'])

end Kind

/-- The kinds below that of all failures, with the thousands of the numbers of their codes. -/
def thousands : List (Kind × Nat) :=
  [(.locale, 1), (.catalog, 2), (.files, 3), (.settings, 4), (.unsupportedLocale, 5)]

/-- A failure belongs to one of these kinds exactly if the number of its code says so. -/
theorem mem_lineage_iff_number {n : Nat} (h : (k, n) ∈ thousands) :
    k ∈ f.kind.lineage ↔ f.diagnostic.code.number / 1000 = n := by
  have hcode : ∀ e ∈ thousands, e.1 ∈ f.kind.lineage ↔ f.diagnostic.code.number / 1000 = e.2 := by
    cases f <;> simp [thousands, kind, Kind.lineage, diagnostic, Diagnostic.Code.number]
  exact hcode (k, n) h

/-! ### Particulars -/

/-- The particulars of a failure, by the kinds that it belongs to. They repeat what its diagnostic
is about. -/
inductive HasParticulars (k : Kind) (d : Diagnostic) : Particulars → Prop
  | locale {code : Text} (h : .locale ∈ k.lineage) (hcode : d.localeCode = some code) :
      HasParticulars k d (.locale code)
  | fallback {language : Text} (regions : List Text) (h : k = .missingFallback)
      (hlanguage : d.localeCode = some language) :
      HasParticulars k d (.fallback language regions)
  | key {key path : Text} (h : .key ∈ k.lineage) (hkey : d.key = some key)
      (hpath : d.sourcePath = some path) : HasParticulars k d (.key key path)
  | source {path : Text} (h : k = .invalidFile) (hpath : d.sourcePath = some path) :
      HasParticulars k d (.source path)
  | path {path : Text} (h : .files ∈ k.lineage) (hpath : d.sourcePath = some path) :
      HasParticulars k d (.path path)
  | nothing (h : ∀ k' ∈ [Kind.locale, .missingFallback, .key, .invalidFile, .files],
      k' ∉ k.lineage) : HasParticulars k d .nothing

theorem hasParticulars (f : Failure) : HasParticulars f.kind f.diagnostic f.particulars := by
  cases f with
  | unknownLanguage | unknownRegion | extraSubtags | duplicateLocale =>
    exact .locale (by simp [kind, Kind.lineage]) rfl
  | missingFallback _ regions => exact .fallback regions rfl rfl
  | unknownKey | missingKey | invalidKey => exact .key (by simp [kind, Kind.lineage]) rfl rfl
  | invalidFile => exact .source rfl rfl
  | missingInputDirectory | missingFile | unwritable =>
    exact .path (by simp [kind, Kind.lineage]) rfl
  | missingTemplate | invalidSettings | unsupportedLocale =>
    exact .nothing (by simp [kind, Kind.lineage])

/-! ### Words -/

theorem Content.words_eq_formatted (h : c.diagnostic? = some d) :
    c.words = d.formatted .report false := by
  cases c with
  | plain => exact absurd h (by simp [diagnostic?])
  | diagnosed d' =>
    obtain rfl : d' = d := Option.some.inj h
    rfl

/-- The report of a failure holds its diagnostic, says what is printed of it without colour, and
repeats what it is about. -/
theorem report_tells (f : Failure) :
    f.report.content.diagnostic? = some f.diagnostic ∧
    f.report.content.words = f.diagnostic.formatted .report false ∧
    HasParticulars f.report.kind f.diagnostic f.report.particulars :=
  ⟨rfl, Content.words_eq_formatted rfl, hasParticulars f⟩

end Phrasebook.Failure
