import Phrasebook.Identifier
import Phrasebook.Locale
import Phrasebook.Text.Quoted

/-!
Class prefixes. The names of emitted classes, modules and files are functions of the class prefix
and the locale alone, so that the lookup can name classes that it does not hold.
-/

namespace Phrasebook

/-- A text that can begin class names. -/
structure ClassPrefix where
  text : Text
  accepted : Identifier.isClassPrefix text = true
deriving DecidableEq

namespace ClassPrefix

def ofText? (t : Text) : Option ClassPrefix :=
  if h : Identifier.isClassPrefix t = true then some ⟨t, h⟩ else none

/-- The message about a text that cannot be a class prefix. -/
def refusal (t : Text) : Text :=
  "Class prefix must be an ASCII identifier, got " ++ t.quoted

variable (p : ClassPrefix)

/-- The abstract base of all classes. -/
def base : Text :=
  p.text

/-- The class that looks locales up on behalf of a caller. -/
def delegate : Text :=
  p.text ++ "Delegate"

/-- The module of the base class and the lookup function. -/
def lookupModule : Text :=
  p.text.lower

def lookup : Text :=
  "lookup_" ++ p.lookupModule

/-- The class of a locale: the language and the region as titles behind the prefix. -/
def classOf (l : Locale) : Text :=
  let language := p.text ++ l.language.titled
  match l.region with
  | none => language
  | some region => language ++ region.titled

/-- The module of a language's classes. -/
def moduleOf (language : Text) : Text :=
  p.lookupModule ++ "_" ++ language

end ClassPrefix

def moduleFile (name : Text) : Text :=
  name ++ ".py"

end Phrasebook
