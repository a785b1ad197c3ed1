import Phrasebook.Emitted.AccessorClass
import Phrasebook.Emitted.LookupBody

/-!
The lookup module: the supported locales, the abstract base class, the lookup function and the
delegate class. The package's index re-exports them.
-/

namespace Phrasebook

inductive LookupModuleSlot where
  | header
  | localeList
  | base
  | delegate
  | lookup
  | supportedLocales
  | supportedLanguages
  | abstractMembers
  | lookupBody
deriving DecidableEq

instance : Slot LookupModuleSlot where
  label
    | .header => "header"
    | .localeList => "locale_list"
    | .base => "base"
    | .delegate => "delegate"
    | .lookup => "lookup"
    | .supportedLocales => "supported_locales"
    | .supportedLanguages => "supported_languages"
    | .abstractMembers => "abstract_members"
    | .lookupBody => "lookup_body"
  label_injective s s' := by cases s <;> cases s' <;> decide

namespace LookupModule

/-- The description, the imports and the exported names. -/
def opening : Skeleton LookupModuleSlot :=
  [.fixed "\"\"\"", .slot .header, .fixed "\n\nSupported locales: ", .slot .localeList,
    .fixed (".\n\"\"\"\n\nfrom __future__ import annotations\n\n" ++
      "from abc import ABC, abstractmethod\n\n__all__ = [\n    \"SUPPORTED_LANGUAGES\",\n" ++
      "    \"SUPPORTED_LOCALES\",\n    \""),
    .slot .base, .fixed "\",\n    \"", .slot .delegate,
    .fixed "\",\n    \"UnsupportedLocaleError\",\n    \"is_supported\",\n    \"", .slot .lookup,
    .fixed "\",\n]\n\n"]

def support : Skeleton LookupModuleSlot :=
  [.fixed "SUPPORTED_LOCALES: tuple[tuple[str, str | None], ...] = (\n",
    .slot .supportedLocales,
    .fixed ")\n\nSUPPORTED_LANGUAGES: frozenset[str] = frozenset(\x7b",
    .slot .supportedLanguages, .fixed "\x7d)\n\n\n"]

/-- How a requested locale is split, and the error for one without classes. -/
def requests : Skeleton LookupModuleSlot :=
  [.fixed ("class UnsupportedLocaleError(LookupError):\n" ++
    "    \"\"\"Raised when no generated class matches the requested locale.\"\"\"\n\n\n" ++
    "def _split_locale(locale: str) -> tuple[str, str | None]:\n" ++
    "    \"\"\"Split 'en-US', 'en_us' or 'en_US.UTF-8' into ('en', 'US').\"\"\"\n" ++
    "    code = locale.split(\".\", 1)[0].replace(\"-\", \"_\")\n" ++
    "    language, _, region = code.partition(\"_\")\n" ++
    "    return language.lower(), region.upper() or None\n\n\n")]

def abstractBase : Skeleton LookupModuleSlot :=
  [.fixed "class ", .slot .base,
    .fixed ("(ABC):\n    \"\"\"Accessors shared by every generated translation class.\"\"\"\n\n" ++
      "    def __init__(self, locale_name: str) -> None:\n" ++
      "        language, region = _split_locale(locale_name)\n" ++
      "        self.locale_name = language if region is None else " ++
      "f\"\x7blanguage\x7d_\x7bregion\x7d\"\n"),
    .slot .abstractMembers, .fixed "\n\n"]

/-- The predicate on languages and the lookup function. -/
def lookup : Skeleton LookupModuleSlot :=
  [.fixed ("def is_supported(language: str) -> bool:\n" ++
      "    \"\"\"Return True if translations exist for the language of a locale.\"\"\"\n" ++
      "    return _split_locale(language)[0] in SUPPORTED_LANGUAGES\n\n\ndef "),
    .slot .lookup, .fixed "(locale: str) -> ", .slot .base,
    .fixed (":\n    \"\"\"Return the translations for a locale.\n\n" ++
      "    An exact language and region match wins; otherwise the\n" ++
      "    language-default translations are returned.\n\n    Raises:\n" ++
      "        UnsupportedLocaleError: If the language is not supported\n    \"\"\"\n" ++
      "    language, region = _split_locale(locale)\n"),
    .slot .lookupBody,
    .fixed "\n    raise UnsupportedLocaleError(\n        f\"", .slot .lookup,
    .fixed ("() failed to load translations for the locale \x7blocale!r\x7d. \"\n" ++
      "        \"This is likely because the locale is not supported by the application. \"\n" ++
      "        \"Check that the locale is listed in SUPPORTED_LOCALES.\"\n    )\n\n\n")]

def delegate : Skeleton LookupModuleSlot :=
  [.fixed "class ", .slot .delegate,
    .fixed (":\n    \"\"\"Localization delegate resolving locales to generated translations." ++
      "\"\"\"\n\n    supported_locales: tuple[tuple[str, str | None], ...] = " ++
      "SUPPORTED_LOCALES\n\n    def is_supported(self, locale: str) -> bool:\n" ++
      "        return is_supported(locale)\n\n    def load(self, locale: str) -> "),
    .slot .base, .fixed ":\n        return ", .slot .lookup, .fixed "(locale)\n"]

def skeleton : Skeleton LookupModuleSlot :=
  opening ++ support ++ requests ++ abstractBase ++ lookup ++ delegate

def supportedLine (l : Text × Option Text) : Text :=
  "    (" ++ l.1.quoted ++ ", " ++ Text.quotedOrNone l.2 ++ "),\n"

def source (p : ClassPrefix) (t : LookupTable) (keys : List Text) : Text :=
  skeleton.fill fun
    | .header => heading
    | .localeList => Text.joined ", " (t.locales.map Locale.canonical)
    | .base => p.base
    | .delegate => p.delegate
    | .lookup => p.lookup
    | .supportedLocales => t.supportedLocales.flatMap supportedLine
    | .supportedLanguages => Text.joined ", " (t.supportedLanguages.map Text.quoted)
    | .abstractMembers => abstractMembersSource keys
    | .lookupBody => t.lookupBody

end LookupModule

inductive PackageSlot where
  | header
  | lookupModule
  | base
  | delegate
  | lookup
deriving DecidableEq

instance : Slot PackageSlot where
  label
    | .header => "header"
    | .lookupModule => "module"
    | .base => "base"
    | .delegate => "delegate"
    | .lookup => "lookup"
  label_injective s s' := by cases s <;> cases s' <;> decide

def packageSkeleton : Skeleton PackageSlot :=
  [.fixed "\"\"\"", .slot .header, .fixed "\"\"\"\n\nfrom .", .slot .lookupModule,
    .fixed (" import (\n    SUPPORTED_LANGUAGES,\n    SUPPORTED_LOCALES,\n" ++
      "    UnsupportedLocaleError,\n    "),
    .slot .base, .fixed ",\n    ", .slot .delegate, .fixed ",\n    is_supported,\n    ",
    .slot .lookup,
    .fixed (",\n)\n\n__all__ = [\n    \"SUPPORTED_LANGUAGES\",\n" ++
      "    \"SUPPORTED_LOCALES\",\n    \""),
    .slot .base, .fixed "\",\n    \"", .slot .delegate,
    .fixed "\",\n    \"UnsupportedLocaleError\",\n    \"is_supported\",\n    \"", .slot .lookup,
    .fixed "\",\n]\n"]

def packageSource (p : ClassPrefix) : Text :=
  packageSkeleton.fill fun
    | .header => heading
    | .lookupModule => p.lookupModule
    | .base => p.base
    | .delegate => p.delegate
    | .lookup => p.lookup

end Phrasebook
