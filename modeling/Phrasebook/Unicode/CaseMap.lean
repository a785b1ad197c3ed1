/-!
Case maps of code points: runs of code points that keep their distance to their image, and the few
code points whose image is a longer text. Everything else is its own image.
-/

namespace Phrasebook.Unicode

/-- Code points `first`, `first + step`, … up to `last`, whose images are `image`, `image + step`
and so on. -/
structure CaseRun where
  first : Nat
  last : Nat
  step : Nat
  image : Nat

/-- A case map. Runs and expansions are in increasing order and have no code point in common. -/
structure CaseMap where
  expansions : List (Nat × List Nat)
  runs : List CaseRun

namespace CaseRun

/-- Whether the run lists `n`. -/
def covers (r : CaseRun) (n : Nat) : Bool :=
  decide (r.first ≤ n) && decide (n ≤ r.last) && (n - r.first) % r.step == 0

/-- The image of `n`, where the run covers it. -/
def apply (r : CaseRun) (n : Nat) : Nat :=
  r.image + (n - r.first)

end CaseRun

namespace CaseMap

/-- The image that the runs give `n`: its own where none covers it. -/
def alongRuns : List CaseRun → Nat → Nat
  | [], n => n
  | r :: rs, n => if n < r.first then n else if r.covers n then r.apply n else alongRuns rs n

def image (m : CaseMap) (n : Nat) : List Nat :=
  match m.expansions.lookup n with
  | some ns => ns
  | none => [alongRuns m.runs n]

end CaseMap

end Phrasebook.Unicode
