import Phrasebook.Text.Case
import Phrasebook.Text.Normal
import Phrasebook.Unicode.IdentifierContinue
import Phrasebook.Unicode.IdentifierStart

/-!
Names in the emitted Python source. Keys of phrases become accessor names, and the class prefix
begins every class name and names the module that gathers the classes.
-/

namespace Phrasebook.Identifier

def underscore : CodePoint := '_'

def isStart (c : CodePoint) : Bool :=
  c == underscore || Unicode.identifierStart.holds c.val

def isContinue (c : CodePoint) : Bool :=
  Unicode.identifierContinue.holds c.val

def isIdentifier : Text → Bool
  | [] => false
  | c :: t => isStart c && t.all isContinue

/-- The words that no identifier may be. -/
def keywords : List Text :=
  List.map Text.ofString
    ["False", "None", "True", "and", "as", "assert", "async", "await", "break", "class",
    "continue", "def", "del", "elif", "else", "except", "finally", "for", "from", "global", "if",
    "import", "in", "is", "lambda", "nonlocal", "not", "or", "pass", "raise", "return", "try",
    "while", "with", "yield"]

def isKeyword (t : Text) : Bool :=
  keywords.contains t

/-- The attribute that every emitted class has already. -/
def localeName : Text := "locale_name"

def isAccessor (key : Text) : Bool :=
  isIdentifier key && key.isNormal && !isKeyword key && !key.startsWith [underscore] &&
    key != localeName

/-- Whether a text can begin class names. It names a module in lowercase, so it is limited to
ASCII. -/
def isClassPrefix (token : Text) : Bool :=
  token.all CodePoint.isAscii && isIdentifier token && !isKeyword token.lower &&
    !token.startsWith [underscore]

end Phrasebook.Identifier
