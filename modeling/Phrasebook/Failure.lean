import Phrasebook.Diagnostic

/-!
The failures of a run, as causes. Each cause has one diagnostic, and all messages are made here.
-/

namespace Phrasebook

/-- Why a request or a run cannot be completed. -/
inductive Failure where
  | unknownLanguage (language code : Text)
  | unknownRegion (region code : Text)
  /-- A locale code has more subtags than a language and a region. -/
  | extraSubtags (code : Text)
  | duplicateLocale (locale first second : Text)
  | missingTemplate (path : Text)
  /-- A language has files for regions only. -/
  | missingFallback (language : Text) (regions : List Text) (inputDir : Text)
  | unknownKey (key path : Text)
  /-- The file of a language lacks a key of the template. -/
  | missingKey (key path : Text)
  /-- A key of the template cannot name an accessor. -/
  | invalidKey (key path : Text)
  /-- A file is not a flat object of texts. -/
  | invalidFile (path reason : Text)
  | missingInputDirectory (path : Text)
  | missingFile (path : Text)
  | unwritable (path reason : Text)
  | invalidSettings (reason : Text) (path : Option Text)
  | unsupportedLocale (code : Text)
deriving DecidableEq

namespace Failure

def diagnostic : Failure → Diagnostic
  | .unknownLanguage language code =>
    { code := .invalidLanguage
      message := "Invalid language code: '" ++ language ++ "' in locale '" ++ code ++ "'"
      hint := some "Use an ISO 639 language code such as 'en' or 'fr'"
      localeCode := some code }
  | .unknownRegion region code =>
    { code := .invalidRegion
      message := "Invalid country code: '" ++ region ++ "' in locale '" ++ code ++ "'"
      hint := some "Use an ISO 3166 region code such as 'US' or 'GB'"
      localeCode := some code }
  | .extraSubtags code =>
    { code := .invalidRegion
      message := "Unsupported locale subtags in '" ++ code ++ "'"
      hint := some "Only language and language_REGION locales are supported"
      localeCode := some code }
  | .duplicateLocale locale first second =>
    { code := .duplicateLocale
      message := "Duplicate locale '" ++ locale ++ "': " ++ second ++ " conflicts with " ++ first
      hint := some "Keep a single file per locale"
      sourcePath := some second
      localeCode := some locale }
  | .missingTemplate path =>
    { code := .missingTemplate
      message := "Template file not found: " ++ path
      hint := some "Create the template file or change the 'template' setting"
      sourcePath := some path }
  | .missingFallback language regions inputDir =>
    { code := .missingFallbackLocale
      message := "Missing fallback locale for '" ++ language ++ "': found regions [" ++
        Text.joined ", " regions ++ "], but no language-default file"
      hint := some ("Add " ++ language ++ ".json in " ++ inputDir)
      localeCode := some language }
  | .unknownKey key path =>
    { code := .unknownKey
      message := "Key not found in template: '" ++ key ++ "' from " ++ path
      hint := some ("Add '" ++ key ++ "' to the template file or remove it from this file")
      sourcePath := some path
      key := some key }
  | .missingKey key path =>
    { code := .missingKey
      message := "Key '" ++ key ++ "' from template is missing in " ++ path
      hint := some "Language-default files must translate every template key"
      sourcePath := some path
      key := some key }
  | .invalidKey key path =>
    { code := .invalidKey
      message := "Key '" ++ key ++ "' in " ++ path ++ " is not a valid accessor name"
      hint := some ("Keys must be NFKC-normalized Python identifiers, must not be keywords, " ++
        "start with '_' or equal 'locale_name'")
      sourcePath := some path
      key := some key }
  | .invalidFile path reason =>
    { code := .invalidPhraseFile
      message := "Invalid translation file " ++ path ++ ": " ++ reason
      hint := some "Translation files must contain a JSON object mapping keys to strings"
      sourcePath := some path }
  | .missingInputDirectory path =>
    { code := .missingInputDirectory
      message := "Directory not found: " ++ path
      hint := some "Create the directory or change the 'input-dir' setting"
      sourcePath := some path }
  | .missingFile path =>
    { code := .missingFile
      message := "File not found: " ++ path
      sourcePath := some path }
  | .unwritable path reason =>
    { code := .outputWriteFailed
      message := "Cannot write " ++ path ++ ": " ++ reason
      hint := some "Check permissions of the output directory"
      sourcePath := some path }
  | .invalidSettings reason path =>
    { code := .invalidConfig
      message := "Invalid configuration: " ++ reason
      sourcePath := path }
  | .unsupportedLocale code =>
    { code := .unsupportedLocale
      message := "No generated translation class for locale '" ++ code ++ "'"
      hint := some "Check that the locale is listed in SUPPORTED_LOCALES"
      localeCode := some code }

end Failure

end Phrasebook
