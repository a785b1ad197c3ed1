import Phrasebook.Text
import Phrasebook.Unicode.CombiningClass
import Phrasebook.Unicode.Compatibility
import Phrasebook.Unicode.Composite

/-!
Normalization form KC. A text has the form if it holds no code point that the form replaces and if
decomposing it, sorting its marks and composing again gives it back. Decomposition only has to know
the composites that the form keeps.
-/

namespace Phrasebook.Text.Normal

open Unicode

/-- The Hangul syllables are composed by arithmetic on their leads, vowels and tails. -/
def syllableBase : Nat := 0xAC00
def leadBase : Nat := 0x1100
def vowelBase : Nat := 0x1161
def tailBase : Nat := 0x11A7

def isSyllable (n : Nat) : Bool :=
  decide (syllableBase ≤ n) && decide (n < syllableBase + 19 * 21 * 28)

/-- The lead, the vowel and, where there is one, the tail of a syllable. -/
def syllableParts (n : Nat) : List Nat :=
  let i := n - syllableBase
  let pair := [leadBase + i / (21 * 28), vowelBase + i % (21 * 28) / 28]
  if i % 28 = 0 then pair else pair ++ [tailBase + i % 28]

def composite? (n : Nat) : Option Composite :=
  composites.find? fun c => c.whole == n

/-- The full decomposition of a code point, following `depth` composites at most. -/
def decompose : (depth : Nat) → Nat → List Nat
  | 0, n => [n]
  | depth + 1, n =>
    if isSyllable n then syllableParts n
    else match composite? n with
      | none => [n]
      | some c => decompose depth c.first ++ [c.second]

/-- No chain of composites is longer than this. -/
def longestChain : Nat := 3

/-- Puts `n` before a sorted text: behind the leading marks of a smaller class if `n` is a mark. -/
def place (n : Nat) : List Nat → List Nat
  | [] => [n]
  | m :: ms =>
    if decide (0 < combiningClass m) && decide (combiningClass m < combiningClass n) then
      m :: place n ms
    else n :: m :: ms

/-- Sorts each run of marks by class; marks of one class keep their order. -/
def sortMarks (ns : List Nat) : List Nat :=
  ns.foldr place []

/-- The code point that two others compose to. -/
def composePair (a b : Nat) : Option Nat :=
  if leadBase ≤ a ∧ a < leadBase + 19 ∧ vowelBase ≤ b ∧ b < vowelBase + 21 then
    some (syllableBase + ((a - leadBase) * 21 + (b - vowelBase)) * 28)
  else if isSyllable a ∧ (a - syllableBase) % 28 = 0 ∧ tailBase < b ∧ b < tailBase + 28 then
    some (a + (b - tailBase))
  else
    (composites.find? fun c => c.first == a && c.second == b).map (·.whole)

/-- Whether `n` may meet the starter across the marks already kept, the latest first. -/
def reaches (n : Nat) : List Nat → Bool
  | [] => true
  | m :: _ => decide (combiningClass m < combiningClass n)

/-- Composes onto a starter, `kept` being the marks after it that stay, the latest first. -/
def composeFrom (starter : Nat) (kept : List Nat) : List Nat → List Nat
  | [] => starter :: kept.reverse
  | n :: ns =>
    match if reaches n kept then composePair starter n else none with
    | some whole => composeFrom whole kept ns
    | none =>
      if combiningClass n = 0 then starter :: kept.reverse ++ composeFrom n [] ns
      else composeFrom starter (n :: kept) ns

/-- Composes a sorted text. Marks before the first starter stay as they are. -/
def compose : List Nat → List Nat
  | [] => []
  | n :: ns => if combiningClass n = 0 then composeFrom n [] ns else n :: compose ns

end Normal

/-- Whether a text is in normalization form KC. -/
def isNormal (t : Text) : Bool :=
  let ns := t.map (·.val)
  ns.all (fun n => !Unicode.compatibility.holds n) &&
    Normal.compose (Normal.sortMarks (ns.flatMap (Normal.decompose Normal.longestChain))) == ns

end Phrasebook.Text
