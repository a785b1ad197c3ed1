import Phrasebook.Emitted.LookupTable
import Phrasebook.Emitted.Skeleton

/-!
The body of the emitted lookup function: a match on language and region, left out if there are no
regions, and a match on the language. Each case returns an instance of one class.
-/

namespace Phrasebook

inductive RegionCaseSlot where
  | language
  | region
  | moduleName
  | className
deriving DecidableEq

instance : Slot RegionCaseSlot where
  label
    | .language => "language"
    | .region => "region"
    | .moduleName => "module"
    | .className => "name"
  label_injective s s' := by cases s <;> cases s' <;> decide

def regionCaseSkeleton : Skeleton RegionCaseSlot :=
  [.fixed "        case (", .slot .language, .fixed ", ", .slot .region,
    .fixed "):\n            from .", .slot .moduleName, .fixed " import ", .slot .className,
    .fixed "\n\n            return ", .slot .className, .fixed "()\n"]

inductive LanguageCaseSlot where
  | language
  | moduleName
  | className
deriving DecidableEq

instance : Slot LanguageCaseSlot where
  label
    | .language => "language"
    | .moduleName => "module"
    | .className => "name"
  label_injective s s' := by cases s <;> cases s' <;> decide

def languageCaseSkeleton : Skeleton LanguageCaseSlot :=
  [.fixed "        case ", .slot .language, .fixed ":\n            from .", .slot .moduleName,
    .fixed " import ", .slot .className, .fixed "\n\n            return ", .slot .className,
    .fixed "()\n"]

namespace LookupTable

def regionCase (e : (Text × Text) × LookupTarget) : Text :=
  regionCaseSkeleton.fill fun
    | .language => e.1.1.quoted
    | .region => e.1.2.quoted
    | .moduleName => e.2.moduleName
    | .className => e.2.className

def languageCase (e : Text × LookupTarget) : Text :=
  languageCaseSkeleton.fill fun
    | .language => e.1.quoted
    | .moduleName => e.2.moduleName
    | .className => e.2.className

/-- The match on language and region. It must have a case, so without one it is left out. -/
def regionMatch (t : LookupTable) : Text :=
  if t.byRegion = [] then []
  else "\n    match (language, region):\n" ++ t.byRegion.flatMap regionCase

def languageMatch (t : LookupTable) : Text :=
  "\n    match language:\n" ++ t.byLanguage.flatMap languageCase

def lookupBody (t : LookupTable) : Text :=
  t.regionMatch ++ t.languageMatch

end LookupTable

end Phrasebook
