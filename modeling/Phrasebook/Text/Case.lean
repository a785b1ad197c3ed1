import Phrasebook.Text
import Phrasebook.Unicode.CaseIgnorable
import Phrasebook.Unicode.Cased
import Phrasebook.Unicode.Lowercase
import Phrasebook.Unicode.Uppercase

/-!
Case of texts by the full case maps, which may lengthen a text. The lowercase of the capital sigma
depends on where it stands: at the end of a word it is the final form.
-/

namespace Phrasebook

namespace CodePoint

def isCased (c : CodePoint) : Bool :=
  Unicode.cased.holds c.val

def isCaseIgnorable (c : CodePoint) : Bool :=
  Unicode.caseIgnorable.holds c.val

def upper (c : CodePoint) : Text :=
  (Unicode.uppercase.image c.val).map ofNat

/-- The lowercase of one code point, wherever it stands. -/
def lower (c : CodePoint) : Text :=
  (Unicode.lowercase.image c.val).map ofNat

end CodePoint

namespace Text

def upper (t : Text) : Text :=
  t.flatMap CodePoint.upper

/-- Whether the nearest code point that is not looked past has case. -/
def meetsCased (t : Text) : Bool :=
  match t.dropWhile CodePoint.isCaseIgnorable with
  | [] => false
  | c :: _ => c.isCased

/-- The capital sigma, the one letter whose lowercase depends on its neighbours. -/
def capitalSigma : CodePoint :=
  .ofNat 0x3A3

/-- The lowercase of `c` between the text `done`, given from its end, and the text `rest`: a
capital sigma that ends a word takes the final form. -/
def lowerBetween (done : Text) (c : CodePoint) (rest : Text) : Text :=
  if c = capitalSigma then
    if meetsCased done && !meetsCased rest then [.ofNat 0x3C2] else [.ofNat 0x3C3]
  else c.lower

/-- The lowercase of `t` after the text `done`, which is given from its end. -/
def lowerAfter (done : Text) : Text → Text
  | [] => []
  | c :: t => lowerBetween done c t ++ lowerAfter (c :: done) t

def lower (t : Text) : Text :=
  lowerAfter [] t

/-- The first code point in uppercase and the rest in lowercase. -/
def titled (t : Text) : Text :=
  upper (t.take 1) ++ lower (t.drop 1)

end Text

end Phrasebook
