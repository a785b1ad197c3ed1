import Phrasebook.Text

/-!
Locales: a language, alone or with a region. The locale of a language alone is the language's
default, which its regions fall back to.
-/

namespace Phrasebook

/-- A locale. An empty region is a region, though no table should list it. -/
structure Locale where
  language : Text
  region : Option Text
deriving DecidableEq

namespace Locale

def separator : CodePoint := '_'

/-- The written form: the language, and the region behind an underscore. -/
def canonical (l : Locale) : Text :=
  match l.region with
  | none => l.language
  | some region => l.language ++ separator :: region

def isDefault (l : Locale) : Bool :=
  l.region.isNone

def default (language : Text) : Locale :=
  ⟨language, none⟩

/-- The key by which locales are sorted: the default of a language comes before its regions. -/
def sortKey (l : Locale) : Text × Text :=
  (l.language, l.region.getD [])

def le (a b : Locale) : Bool :=
  if a.language = b.language then Text.le (a.region.getD []) (b.region.getD [])
  else Text.le a.language b.language

end Locale

end Phrasebook
