import Phrasebook.Locale

/-!
Reference tables: the languages and the regions that exist, with their display names.
-/

namespace Phrasebook

/-- The tables of language and region names, by code. -/
structure Reference where
  languages : List (Text × Text)
  regions : List (Text × Text)
deriving DecidableEq

namespace Reference

def hasLanguage (r : Reference) (code : Text) : Bool :=
  (r.languages.lookup code).isSome

def hasRegion (r : Reference) (code : Text) : Bool :=
  (r.regions.lookup code).isSome

/-- The name of a language; its code if the table has none. -/
def languageName (r : Reference) (code : Text) : Text :=
  (r.languages.lookup code).getD code

/-- The name of a region; its code if the table has none. -/
def regionName (r : Reference) (code : Text) : Text :=
  (r.regions.lookup code).getD code

def inWords (r : Reference) (l : Locale) : Text :=
  match l.region with
  | none => r.languageName l.language
  | some region => r.languageName l.language ++ ", as used in " ++ r.regionName region

end Reference

end Phrasebook
