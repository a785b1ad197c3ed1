import Phrasebook.Text

/-!
What the readers of documents share: places, as messages count them, from line 1 and column 1 in
code points; and integers, which documents may hold up to a number of digits.
-/

namespace Phrasebook

structure Place where
  offset : Nat
  line : Nat
  column : Nat
deriving DecidableEq

/-- The place that `offset` characters of the document precede. -/
def Place.ofOffset (document : List Char) (offset : Nat) : Place :=
  let passed := document.take offset
  { offset
    line := passed.count '\n' + 1
    column := (passed.reverse.takeWhile (· ≠ '\n')).length + 1 }

/-- The place at which `left` characters of the document are still to be read. -/
def Place.ofLeft (document : List Char) (left : Nat) : Place :=
  ofOffset document (document.length - left)

namespace Numeral

/-- Decimal integers of more digits are refused. -/
def maxDigits : Nat := 4300

def oversizedMessage (digits : Nat) : Text :=
  "Exceeds the limit (" ++ Text.ofNat maxDigits ++
    " digits) for integer string conversion: value has " ++ Text.ofNat digits ++
    " digits; use sys.set_int_max_str_digits() to increase the limit"

/-- The value of a hexadecimal digit. -/
def digit? (c : Char) : Option Nat :=
  if '0' ≤ c ∧ c ≤ '9' then some (c.toNat - 48)
  else if 'a' ≤ c ∧ c ≤ 'f' then some (c.toNat - 87)
  else if 'A' ≤ c ∧ c ≤ 'F' then some (c.toNat - 55)
  else none

/-- The number that digits write in a base. What is no digit counts as zero. -/
def value (base : Nat) (digits : List Char) : Nat :=
  digits.foldl (fun n d => n * base + (digit? d).getD 0) 0

end Numeral

end Phrasebook
