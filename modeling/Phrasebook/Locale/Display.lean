import Phrasebook.Locale.Code
import Phrasebook.Text.Quoted

/-!
Display data: for each display locale the names of languages and regions in its words. The
reference tables keep the plain languages only, since display data also name regional and script
forms.
-/

namespace Phrasebook

/-- What is known for one display locale. -/
inductive DisplayEntry where
  | names (languages regions : List (Text × Text))
  /-- The identifier is not one that display data can have. -/
  | malformed

/-- The display data that are at hand, by identifier. -/
abbrev DisplayData := List (Text × DisplayEntry)

/-- Why there are no names for a display locale. -/
inductive DisplayFault where
  | unknown (identifier : Text)
  | malformed (identifier : Text)
deriving DecidableEq

def DisplayFault.message : DisplayFault → Text
  | .unknown identifier => "unknown locale " ++ identifier.quoted
  | .malformed identifier => "malformed locale " ++ identifier.quoted

/-- Whether a code is that of a plain language. -/
def isPlainLanguage (code : Text) : Bool :=
  code != [] && code.all CodePoint.isAsciiLower

/-- The reference tables in the words of a display locale. -/
def DisplayData.reference (data : DisplayData) (display : Text) :
    Except DisplayFault Reference :=
  let identifier := Locale.normalize display
  match data.lookup identifier with
  | none => .error (.unknown identifier)
  | some .malformed => .error (.malformed identifier)
  | some (.names languages regions) =>
    .ok ⟨languages.filter fun entry => isPlainLanguage entry.1, regions⟩

end Phrasebook
