import Phrasebook.Text

/-!
Diagnostics: what is reported about a run that cannot be completed. A diagnostic has a numbered
code, a message, and optionally a hint, the file, the locale and the key that it is about.
-/

namespace Phrasebook

namespace Diagnostic

/-- What a diagnostic is about. -/
inductive Code where
  | invalidLanguage
  | invalidRegion
  | duplicateLocale
  | missingTemplate
  | missingFallbackLocale
  | unknownKey
  | missingKey
  | invalidKey
  | invalidPhraseFile
  | missingInputDirectory
  | missingFile
  | outputWriteFailed
  | invalidConfig
  | unsupportedLocale
deriving DecidableEq

namespace Code

/-- Every code, in the order of the numbers. -/
def all : List Code :=
  [.invalidLanguage, .invalidRegion, .duplicateLocale, .missingTemplate, .missingFallbackLocale,
    .unknownKey, .missingKey, .invalidKey, .invalidPhraseFile, .missingInputDirectory,
    .missingFile, .outputWriteFailed, .invalidConfig, .unsupportedLocale]

/-- The number of a code. Locales have the numbers from 1001 on, catalogs those from 2001, files
those from 3001, settings 4001 and requests 5001. -/
def number : Code → Nat
  | .invalidLanguage => 1001
  | .invalidRegion => 1002
  | .duplicateLocale => 1003
  | .missingTemplate => 2001
  | .missingFallbackLocale => 2002
  | .unknownKey => 2003
  | .missingKey => 2004
  | .invalidKey => 2005
  | .invalidPhraseFile => 2006
  | .missingInputDirectory => 3001
  | .missingFile => 3002
  | .outputWriteFailed => 3003
  | .invalidConfig => 4001
  | .unsupportedLocale => 5001

def label : Code → Text
  | .invalidLanguage => "INVALID_LANGUAGE"
  | .invalidRegion => "INVALID_REGION"
  | .duplicateLocale => "DUPLICATE_LOCALE"
  | .missingTemplate => "MISSING_TEMPLATE"
  | .missingFallbackLocale => "MISSING_FALLBACK_LOCALE"
  | .unknownKey => "UNKNOWN_KEY"
  | .missingKey => "MISSING_KEY"
  | .invalidKey => "INVALID_KEY"
  | .invalidPhraseFile => "INVALID_TRANSLATION_FILE"
  | .missingInputDirectory => "MISSING_INPUT_DIRECTORY"
  | .missingFile => "MISSING_FILE"
  | .outputWriteFailed => "OUTPUT_WRITE_FAILED"
  | .invalidConfig => "INVALID_CONFIG"
  | .unsupportedLocale => "UNSUPPORTED_LOCALE"

def ofLabel? (t : Text) : Option Code :=
  all.find? fun c => c.label == t

end Code

/-- How grave a diagnostic is. A grade with a name of its own is shown as an error. -/
inductive Severity where
  | error
  | warning
  | named (label : Text)
deriving DecidableEq

namespace Severity

def label : Severity → Text
  | .error => "error"
  | .warning => "warning"
  | .named label => label

def ofLabel (t : Text) : Severity :=
  if t = Severity.error.label then .error
  else if t = Severity.warning.label then .warning
  else .named t

end Severity

end Diagnostic

structure Diagnostic where
  code : Diagnostic.Code
  message : Text
  hint : Option Text := none
  sourcePath : Option Text := none
  localeCode : Option Text := none
  key : Option Text := none
  severity : Diagnostic.Severity := .error
deriving DecidableEq

end Phrasebook
