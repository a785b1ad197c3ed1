import Phrasebook.Text
import Phrasebook.Unicode.Unprintable

/-!
Quoted texts: the literal by which a text stands in emitted source and in messages. A quoted text
is one line without surrogates and without unprintable code points, whatever the text holds.
-/

namespace Phrasebook

namespace CodePoint

def isPrintable (c : CodePoint) : Bool :=
  !Unicode.unprintable.holds c.val

/-- A code point as the shortest numbered escape that holds it. -/
def numbered (c : CodePoint) : Text :=
  if c.val < 0x100 then "\\x" ++ Text.hex 2 c.val
  else if c.val < 0x10000 then "\\u" ++ Text.hex 4 c.val
  else "\\U" ++ Text.hex 8 c.val

end CodePoint

namespace Text

/-- A code point as it stands between two marks `mark`. -/
def escaped (mark c : CodePoint) : Text :=
  if c = mark ∨ c = '\\' then ['\\', c]
  else if c = '\t' then "\\t"
  else if c = '\n' then "\\n"
  else if c = '\r' then "\\r"
  else if c.isPrintable then [c]
  else c.numbered

/-- The mark around a quoted text: the single one, unless only that would need an escape. -/
def quoteMark (t : Text) : CodePoint :=
  if t.contains '\'' && !t.contains '"' then '"' else '\''

def quoted (t : Text) : Text :=
  let mark := t.quoteMark
  mark :: t.flatMap (escaped mark) ++ [mark]

def quotedOrNone : Option Text → Text
  | none => "None"
  | some t => t.quoted

/-- A tuple of literals; a single one is told from a bracketed literal by a comma. -/
def tuple : List Text → Text
  | [item] => "(" ++ item ++ ",)"
  | items => "(" ++ joined ", " items ++ ")"

end Text

end Phrasebook
