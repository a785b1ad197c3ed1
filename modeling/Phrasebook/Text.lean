/-!
Texts as sequences of code points. A code point may be a lone surrogate, because an escape in a
phrase file can denote one; a text without surrogates is a sequence of characters. The module
also holds the cuts that locales, file names and documents share: at the first mark, at every mark,
and at the blank ends.
-/

namespace Phrasebook

/-- A Unicode code point, surrogates included. -/
structure CodePoint where
  val : Nat
  isLt : val < 0x110000
deriving DecidableEq

namespace CodePoint

/-- The code point with number `n`, counted around the end of the code space. -/
def ofNat (n : Nat) : CodePoint :=
  ⟨n % 0x110000, Nat.mod_lt _ (by decide)⟩

def ofChar (c : Char) : CodePoint :=
  ⟨c.toNat, by
    have h := c.valid
    simp only [UInt32.isValidChar, Nat.isValidChar] at h
    simp only [Char.toNat]
    omega⟩

instance : Coe Char CodePoint := ⟨ofChar⟩

instance : Inhabited CodePoint := ⟨ofNat 0⟩

/-- Surrogates have no encoded form of their own. -/
def isSurrogate (c : CodePoint) : Bool :=
  decide (0xD800 ≤ c.val) && decide (c.val < 0xE000)

def toChar? (c : CodePoint) : Option Char :=
  if h : c.val.isValidChar then some (Char.ofNatAux c.val h) else none

def isAscii (c : CodePoint) : Bool :=
  decide (c.val < 0x80)

/-- The letters `a` to `z`. -/
def isAsciiLower (c : CodePoint) : Bool :=
  decide (0x61 ≤ c.val) && decide (c.val ≤ 0x7A)

end CodePoint

/-- A text: its code points in order. -/
abbrev Text := List CodePoint

namespace Text

def ofString (s : String) : Text :=
  s.toList.map CodePoint.ofChar

instance : Coe String Text := ⟨ofString⟩

def ofChars (cs : List Char) : Text :=
  cs.map CodePoint.ofChar

def toChars? (t : Text) : Option (List Char) :=
  t.mapM CodePoint.toChar?

/-- A number in decimal digits. -/
def ofNat (n : Nat) : Text :=
  ofChars (Nat.toDigits 10 n)

/-- A number in at least `width` hexadecimal digits, in small letters. -/
def hex (width n : Nat) : Text :=
  let digits := ofChars (Nat.toDigits 16 n)
  List.replicate (width - digits.length) ('0' : CodePoint) ++ digits

/-- The parts, with `mark` between neighbours. -/
def joined (mark : Text) (parts : List Text) : Text :=
  List.intercalate mark parts

/-- Lexicographic order by code point. -/
def le : Text → Text → Bool
  | [], _ => true
  | _ :: _, [] => false
  | a :: x, b :: y => decide (a.val < b.val) || (a == b && le x y)

/-- What stands before the first `mark`; all of the text if there is none. -/
def before (mark : CodePoint) (t : Text) : Text :=
  t.takeWhile (· ≠ mark)

/-- What stands after the first `mark`; nothing if there is none. -/
def after (mark : CodePoint) (t : Text) : Text :=
  (t.dropWhile (· ≠ mark)).drop 1

/-- The parts between the marks, empty ones included: one more than there are marks. -/
def splitWhere (isMark : CodePoint → Bool) : Text → List Text
  | [] => [[]]
  | c :: t =>
    if isMark c then [] :: splitWhere isMark t
    else match splitWhere isMark t with
      | [] => [[c]]
      | part :: parts => (c :: part) :: parts

/-- Cuts off the code points of a class at both ends. -/
def trim (cut : CodePoint → Bool) (t : Text) : Text :=
  ((t.dropWhile cut).reverse.dropWhile cut).reverse

def startsWith (t start : Text) : Bool :=
  start.isPrefixOf t

def endsWith (t ending : Text) : Bool :=
  ending.isSuffixOf t

end Text

end Phrasebook
