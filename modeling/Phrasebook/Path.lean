import Phrasebook.Text

/-!
File paths in normal form: without empty and single-dot parts. Two dots stay, because what they
mean depends on the directories. Exactly two slashes at the front are a root of their own.
-/

namespace Phrasebook

inductive Path.Root where
  | relative
  | single
  | double
deriving DecidableEq

structure Path where
  root : Path.Root
  parts : List Text
deriving DecidableEq

namespace Path

def slash : CodePoint := '/'

def Root.text : Root → Text
  | .relative => []
  | .single => [slash]
  | .double => [slash, slash]

/-- The root that a number of slashes at the front means. -/
def Root.ofSlashes : Nat → Root
  | 0 => .relative
  | 2 => .double
  | _ => .single

/-- Whether a part says where a path leads. -/
def isProper (part : Text) : Bool :=
  part != [] && part != "."

def ofText (t : Text) : Path where
  root := .ofSlashes (t.takeWhile (· = slash)).length
  parts := (t.splitWhere (· = slash)).filter isProper

/-- The text of a path; the empty relative path is a dot. -/
def toText (p : Path) : Text :=
  if p.root = .relative ∧ p.parts = [] then "."
  else p.root.text ++ Text.joined [slash] p.parts

/-- The path `q` seen from `p`. -/
def join (p q : Path) : Path :=
  if q.root = .relative then { p with parts := p.parts ++ q.parts } else q

/-- The path that a text denotes when seen from `p`. -/
def joinText (p : Path) (t : Text) : Path :=
  p.join (ofText t)

/-- The last part; empty where there is none. -/
def name (p : Path) : Text :=
  p.parts.getLastD []

def parent (p : Path) : Path :=
  { p with parts := p.parts.dropLast }

end Path

def dot : CodePoint := '.'

/-- The ending of a file name from its last dot on. A dot at the front or at the end begins no
ending. -/
def nameSuffix (name : Text) : Text :=
  let ending := (name.reverse.takeWhile (· ≠ dot)).length
  if ending = 0 ∨ name.length ≤ ending + 1 then [] else name.drop (name.length - ending - 1)

end Phrasebook
