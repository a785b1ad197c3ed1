import Phrasebook.ClassPrefix
import Phrasebook.Failure
import Phrasebook.Locale.Code
import Phrasebook.Locale.Groups

/-!
The lookup table: which class answers a request for a locale. A class for exactly that language
and region comes first, then the class of the language alone; otherwise the locale is unsupported.
-/

namespace Phrasebook

/-- The class that answers a request, and the module that holds it. -/
structure LookupTarget where
  locale : Locale
  className : Text
  moduleName : Text
deriving DecidableEq

/-- The classes by language and region, and by language alone. -/
structure LookupTable where
  locales : List Locale
  byRegion : List ((Text × Text) × LookupTarget)
  byLanguage : List (Text × LookupTarget)
deriving DecidableEq

def LookupTarget.ofLocale (p : ClassPrefix) (l : Locale) : LookupTarget :=
  ⟨l, p.classOf l, p.moduleOf l.language⟩

namespace LookupTable

def ofGroups (p : ClassPrefix) (gs : List LanguageGroup) : LookupTable :=
  let locales := Groups.locales gs
  { locales
    byRegion := locales.filterMap fun l =>
      l.region.map fun region => ((l.language, region), LookupTarget.ofLocale p l)
    byLanguage := locales.filterMap fun l =>
      if l.isDefault then some (l.language, LookupTarget.ofLocale p l) else none }

variable (t : LookupTable)

def supportedLocales : List (Text × Option Text) :=
  t.locales.map fun l => (l.language, l.region)

def supportedLanguages : List Text :=
  t.byLanguage.map (·.1)

/-- What answers a request for a language and an optional region. -/
def resolve (language : Text) (region : Option Text) : Except Failure LookupTarget :=
  let exact := region.bind fun region => t.byRegion.lookup (language, region)
  match exact with
  | some target => .ok target
  | none =>
    match t.byLanguage.lookup language with
    | some target => .ok target
    | none => .error (.unsupportedLocale (Locale.canonical ⟨language, region⟩))

/-- The language and the region that a requested code names. What follows a dot is an encoding and
is not looked at. -/
def splitRequest (code : Text) : Text × Option Text :=
  let normal := Locale.normalize (code.before '.')
  let region := normal.after Locale.separator
  (normal.before Locale.separator, if region = [] then none else some region)

/-- What answers a request for a locale code. -/
def resolveCode (code : Text) : Except Failure LookupTarget :=
  let (language, region) := splitRequest code
  t.resolve language region

/-- Whether there are classes for the language of a locale code. -/
def supports (code : Text) : Bool :=
  (t.byLanguage.lookup (splitRequest code).1).isSome

end LookupTable

end Phrasebook
