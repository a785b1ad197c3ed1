import Phrasebook.Failure
import Phrasebook.Locale.Reference
import Phrasebook.Path
import Phrasebook.Text.Case
import Phrasebook.Unicode.Property

/-!
Locale codes as users write them. Separators, the case of the language and the region, and blanks
at the ends make no difference. Normalizing a code checks nothing; parsing it accepts exactly a
known language, alone or with a known region.
-/

namespace Phrasebook

def CodePoint.isBlank (c : CodePoint) : Bool :=
  Unicode.blank.holds c.val

namespace Locale

/-- The marks between subtags. -/
def isSeparator (c : CodePoint) : Bool :=
  c == '-' || c == '_'

/-- The subtags of a code. There is at least one. -/
def subtags (code : Text) : List Text :=
  (code.trim CodePoint.isBlank).splitWhere isSeparator

/-- A code in normal spelling: the language in lowercase, the region in uppercase, and underscores
between subtags. -/
def normalize (code : Text) : Text :=
  match subtags code with
  | [] => []
  | [language] => language.lower
  | language :: region :: rest =>
    Text.joined [separator] (language.lower :: region.upper :: rest)

/-- The locale that a code denotes. The language is checked first, then the number of subtags,
then the region. -/
def parse (r : Reference) (code : Text) : Except Failure Locale :=
  match subtags code with
  | [] => .error (.unknownLanguage [] code)
  | tag :: rest =>
    let language := tag.lower
    if !r.hasLanguage language then .error (.unknownLanguage language code)
    else match rest with
      | [] => .ok ⟨language, none⟩
      | [tag] =>
        let region := tag.upper
        if !r.hasRegion region then .error (.unknownRegion region code)
        else .ok ⟨language, some region⟩
      | _ :: _ :: _ => .error (.extraSubtags code)

/-- The locale that a file name denotes: what stands before its first dot. -/
def ofFileName (r : Reference) (name : Text) : Except Failure Locale :=
  parse r (name.before '.')

/-- The locale that the last part of a path denotes. -/
def ofPath (r : Reference) (p : Path) : Except Failure Locale :=
  ofFileName r p.name

def canonicalize (r : Reference) (code : Text) : Except Failure Text :=
  (parse r code).map canonical

end Locale

end Phrasebook
