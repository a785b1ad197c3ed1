import Phrasebook.Utf8

/-!
What stands on a disk: files, and directories that hold more by name. A place below a directory is
given by the names that lead down to it.
-/

namespace Phrasebook

/-- A place: the names that lead down to it. -/
abbrev Location := List Text

/-- A file with its content, or a directory with what it holds by name. -/
inductive DiskNode where
  | file (content : Bytes)
  | directory (entries : List (Text × DiskNode))

namespace DiskNode

instance : Inhabited DiskNode := ⟨.directory []⟩

def isDirectory : DiskNode → Bool
  | .file _ => false
  | .directory _ => true

/-- What a directory holds. A file holds nothing. -/
def entries : DiskNode → List (Text × DiskNode)
  | .file _ => []
  | .directory held => held

/-- What stands at a place below a node. -/
def get : DiskNode → Location → Option DiskNode
  | n, [] => some n
  | n, name :: l =>
    match n.entries.lookup name with
    | some inner => get inner l
    | none => none

/-- Lets a name stand for a node. A new name comes last. -/
def setEntry (held : List (Text × DiskNode)) (name : Text) (n : DiskNode) :
    List (Text × DiskNode) :=
  if held.any (·.1 == name) then held.map fun e => if e.1 == name then (name, n) else e
  else held ++ [(name, n)]

/-- Puts a node at a place below another. What was there is replaced, and directories that are
missing on the way are made; nothing can be put below a file. -/
def put : DiskNode → Location → DiskNode → DiskNode
  | _, [], new => new
  | .file content, _ :: _, _ => .file content
  | .directory held, name :: l, new =>
    .directory (setEntry held name (put ((held.lookup name).getD (.directory [])) l new))

/-- Takes away what stands at a place below a node, and all below it. -/
def erase : DiskNode → Location → DiskNode
  | n, [] => n
  | .file content, _ :: _ => .file content
  | .directory held, [name] => .directory (held.filter fun e => e.1 != name)
  | .directory held, name :: l =>
    .directory (held.map fun e => if e.1 == name then (name, erase e.2 l) else e)

mutual

/-- All that stands below a node, with the places. A directory comes before what it holds. -/
def contents : DiskNode → List (Location × DiskNode)
  | .file _ => []
  | .directory held => contentsOf held

/-- What stands below a directory that holds `held`. -/
def contentsOf : List (Text × DiskNode) → List (Location × DiskNode)
  | [] => []
  | (name, n) :: held =>
    ([name], n) :: (contents n).map (fun e => (name :: e.1, e.2)) ++ contentsOf held

end

@[simp] theorem get_nil (n : DiskNode) : n.get [] = some n := rfl

@[simp] theorem put_nil (n new : DiskNode) : n.put [] new = new := by
  cases n <;> rfl

@[simp] theorem erase_nil (n : DiskNode) : n.erase [] = n := by
  cases n <;> rfl

@[simp] theorem get_file (content : Bytes) (t : Text) (l : Location) :
    (file content).get (t :: l) = none := rfl

end DiskNode

end Phrasebook
