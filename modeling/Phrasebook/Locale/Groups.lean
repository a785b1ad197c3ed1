import Phrasebook.Event
import Phrasebook.Trouble

/-!
Groups: the locales of each language, the language's default first. Groups are in the order of
their languages, regions in their own, and neither depends on the order or the number of times in
which locales are given.
-/

namespace Phrasebook

/-- The locales of one language. The absent region stands for the language's default. -/
structure LanguageGroup where
  language : Text
  regions : List (Option Text)
deriving DecidableEq

namespace LanguageGroup

def hasDefault (g : LanguageGroup) : Bool :=
  g.regions.contains none

/-- The regions proper. -/
def variants (g : LanguageGroup) : List Text :=
  g.regions.filterMap id

def locales (g : LanguageGroup) : List Locale :=
  g.regions.map fun region => ⟨g.language, region⟩

end LanguageGroup

namespace Groups

/-- The distinct texts in order. -/
def sorted (ts : List Text) : List Text :=
  ts.eraseDups.mergeSort Text.le

def ofLanguage (ls : List Locale) (language : Text) : LanguageGroup :=
  let own := ls.filter fun l => l.language == language
  let regions := (sorted (own.filterMap (·.region))).map some
  ⟨language, if own.any (·.isDefault) then none :: regions else regions⟩

def ofLocales (ls : List Locale) : List LanguageGroup :=
  (sorted (ls.map (·.language))).map (ofLanguage ls)

/-- The locales of groups, group by group. -/
def locales (gs : List LanguageGroup) : List Locale :=
  gs.flatMap LanguageGroup.locales

/-- The groups of locales, reported one by one. -/
def report : List LanguageGroup → Traced Trouble Unit
  | [] => pure ()
  | g :: gs => do
    Traced.note (.grouped g.language g.regions)
    report gs

/-- Checks that every group has its language's default to fall back to. -/
def requireDefaults (inputDir : Text) (gs : List LanguageGroup) : Except Failure Unit :=
  match gs.find? fun g => !g.hasDefault with
  | some g => .error (.missingFallback g.language g.variants inputDir)
  | none => .ok ()

/-- The groups of locales, each with its language's default. -/
def build (inputDir : Text) (ls : List Locale) : Traced Trouble (List LanguageGroup) := do
  let gs := ofLocales ls
  report gs
  match requireDefaults inputDir gs with
  | .ok () => return gs
  | .error f => throw (.failure f)

end Groups

end Phrasebook
