import Phrasebook.Diagnostic.Format
import Phrasebook.Failure

/-!
Reports of failures: the kind of a failure with its place among the kinds, what it says, and the
particulars that a caller may act on.
-/

namespace Phrasebook.Failure

/-- The kinds of failure. Some gather others. -/
inductive Kind where
  | any
  | locale
  | invalidLanguage
  | invalidRegion
  | duplicateLocale
  | catalog
  | missingTemplate
  | missingFallback
  | key
  | unknownKey
  | missingKey
  | invalidKey
  | invalidFile
  | files
  | missingInputDirectory
  | missingFile
  | unwritable
  | settings
  | unsupportedLocale
deriving DecidableEq

namespace Kind

/-- The kinds that a kind belongs to, itself first and the kind of all failures last. -/
def lineage : Kind → List Kind
  | .any => [.any]
  | .locale => [.locale, .any]
  | .invalidLanguage => [.invalidLanguage, .locale, .any]
  | .invalidRegion => [.invalidRegion, .locale, .any]
  | .duplicateLocale => [.duplicateLocale, .locale, .any]
  | .catalog => [.catalog, .any]
  | .missingTemplate => [.missingTemplate, .catalog, .any]
  | .missingFallback => [.missingFallback, .catalog, .any]
  | .key => [.key, .catalog, .any]
  | .unknownKey => [.unknownKey, .key, .catalog, .any]
  | .missingKey => [.missingKey, .key, .catalog, .any]
  | .invalidKey => [.invalidKey, .key, .catalog, .any]
  | .invalidFile => [.invalidFile, .catalog, .any]
  | .files => [.files, .any]
  | .missingInputDirectory => [.missingInputDirectory, .files, .any]
  | .missingFile => [.missingFile, .files, .any]
  | .unwritable => [.unwritable, .files, .any]
  | .settings => [.settings, .any]
  | .unsupportedLocale => [.unsupportedLocale, .any]

end Kind

inductive Particulars where
  | nothing
  | locale (code : Text)
  | fallback (language : Text) (regions : List Text)
  | key (key sourcePath : Text)
  | source (sourcePath : Text)
  | path (path : Text)
deriving DecidableEq

/-- What a report says: plain words or a diagnostic. -/
inductive Content where
  | plain (words : Text)
  | diagnosed (d : Diagnostic)
deriving DecidableEq

/-- The words of a content; a diagnostic is given as a report without colour. -/
def Content.words : Content → Text
  | .plain words => words
  | .diagnosed d => d.report false

def Content.diagnostic? : Content → Option Diagnostic
  | .plain _ => none
  | .diagnosed d => some d

structure Report where
  kind : Kind
  content : Content
  particulars : Particulars
deriving DecidableEq

def kind : Failure → Kind
  | .unknownLanguage _ _ => .invalidLanguage
  | .unknownRegion _ _ => .invalidRegion
  | .extraSubtags _ => .invalidRegion
  | .duplicateLocale _ _ _ => .duplicateLocale
  | .missingTemplate _ => .missingTemplate
  | .missingFallback _ _ _ => .missingFallback
  | .unknownKey _ _ => .unknownKey
  | .missingKey _ _ => .missingKey
  | .invalidKey _ _ => .invalidKey
  | .invalidFile _ _ => .invalidFile
  | .missingInputDirectory _ => .missingInputDirectory
  | .missingFile _ => .missingFile
  | .unwritable _ _ => .unwritable
  | .invalidSettings _ _ => .settings
  | .unsupportedLocale _ => .unsupportedLocale

def particulars : Failure → Particulars
  | .unknownLanguage _ code => .locale code
  | .unknownRegion _ code => .locale code
  | .extraSubtags code => .locale code
  | .duplicateLocale locale _ _ => .locale locale
  | .missingFallback language regions _ => .fallback language regions
  | .unknownKey key path => .key key path
  | .missingKey key path => .key key path
  | .invalidKey key path => .key key path
  | .invalidFile path _ => .source path
  | .missingInputDirectory path => .path path
  | .missingFile path => .path path
  | .unwritable path _ => .path path
  | .missingTemplate _ | .invalidSettings _ _ | .unsupportedLocale _ => .nothing

def report (f : Failure) : Report :=
  ⟨f.kind, .diagnosed f.diagnostic, f.particulars⟩

end Phrasebook.Failure
