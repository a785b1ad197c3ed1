import Phrasebook.Disk.Node
import Phrasebook.Path
import Phrasebook.Text.Quoted

/-!
A disk with a working directory. Paths are walked part by part from the root or from the working
directory, and two dots lead to the directory above. Looking up and listing name the cause when
they fail. There are no links and no permissions.

Names are texts, but what counts against the limits on them are bytes. A byte that is no UTF-8 has
a surrogate of its own in a name; all other surrogates are kept out of names. A name that spells a
character by such surrogates is not taken for the name with the character.
-/

namespace Phrasebook

/-- A disk. Its places are below the root. -/
structure Disk where
  root : DiskNode
  workingDirectory : Location

inductive DiskCause where
  | notFound
  | busy
  | exists
  | notDirectory
  | isDirectory
  | nameTooLong
deriving DecidableEq

namespace DiskCause

def number : DiskCause → Nat
  | .notFound => 2
  | .busy => 16
  | .exists => 17
  | .notDirectory => 20
  | .isDirectory => 21
  | .nameTooLong => 36

def phrase : DiskCause → Text
  | .notFound => "No such file or directory"
  | .busy => "Device or resource busy"
  | .exists => "File exists"
  | .notDirectory => "Not a directory"
  | .isDirectory => "Is a directory"
  | .nameTooLong => "File name too long"

end DiskCause

/-- A refusal with the path it is about, and the target where something was to be moved. -/
structure DiskError where
  cause : DiskCause
  path : Text
  target : Option Text := none
deriving DecidableEq

def DiskError.message (e : DiskError) : Text :=
  let target := match e.target with
    | none => []
    | some t => " -> " ++ t.quoted
  "[Errno " ++ Text.ofNat e.cause.number ++ "] " ++ e.cause.phrase ++ ": " ++ e.path.quoted ++
    target

namespace CodePoint

/-- The surrogates that stand in names for single bytes which are no UTF-8. -/
def isRawByte (c : CodePoint) : Bool :=
  decide (0xDC80 ≤ c.val) && decide (c.val < 0xDD00)

/-- Surrogates that have no bytes even in names. -/
def isByteless (c : CodePoint) : Bool :=
  c.isSurrogate && !c.isRawByte

/-- Code points that no name holds. -/
def isBarred (c : CodePoint) : Bool :=
  c == ofNat 0 || c.isByteless

end CodePoint

/-- How many bytes a code point of a name takes. -/
def byteWidth (c : CodePoint) : Nat :=
  if c.isRawByte || decide (c.val < 0x80) then 1
  else if c.val < 0x800 then 2
  else if c.val < 0x10000 then 3
  else 4

def byteLength : Text → Nat
  | [] => 0
  | c :: t => byteWidth c + byteLength t

/-- A name may take this many bytes. -/
def maxNameLength : Nat := 255

/-- The text of a path may take this many bytes, wherever it leads. -/
def maxPathLength : Nat := 4095

/-- The part of a path that leads to the directory above. -/
def upward : Text := ".."

namespace Disk

def get (d : Disk) (l : Location) : Option DiskNode :=
  d.root.get l

def put (d : Disk) (l : Location) (n : DiskNode) : Disk :=
  { d with root := d.root.put l n }

/-- Takes away what stands at a place, and all below it. -/
def erase (d : Disk) (l : Location) : Disk :=
  { d with root := d.root.erase l }

/-- A way down from the root: the nodes passed with their names, the last one first. -/
abbrev Trail := List (Text × DiskNode)

def Trail.location (t : Trail) : Location :=
  (t.map (·.1)).reverse

/-- What stands where a trail ends. -/
def nodeOn (d : Disk) : Trail → DiskNode
  | [] => d.root
  | (_, n) :: _ => n

/-- Goes on from a directory by one part, if something stands there. -/
def enter (d : Disk) (t : Trail) (part : Text) : Except DiskCause Trail :=
  match d.nodeOn t with
  | .file _ => .error .notDirectory
  | .directory held =>
    if part = upward then .ok t.tail
    else if maxNameLength < byteLength part then .error .nameTooLong
    else match held.lookup part with
      | some n => .ok ((part, n) :: t)
      | none => .error .notFound

/-- Where walking a path begins. -/
def start (d : Disk) (p : Path) : Except DiskCause Trail :=
  if p.root = .relative then d.workingDirectory.foldlM d.enter [] else .ok []

def walk (d : Disk) (p : Path) : Except DiskCause Trail := do
  let t ← d.start p
  p.parts.foldlM d.enter t

/-- Refuses a path that is too long as a whole. -/
def checkLength (p : Path) : Except DiskCause Unit :=
  if maxPathLength < byteLength p.toText then .error .nameTooLong else .ok ()

def locate (d : Disk) (p : Path) : Except DiskCause Trail := do
  checkLength p
  d.walk p

def find (d : Disk) (p : Path) : Except DiskCause DiskNode :=
  (d.locate p).map d.nodeOn

/-- Where the last part of a path may be created. -/
inductive Spot where
  /-- In a directory, under a name. -/
  | named (l : Location)
  /-- The path ends in no name: it is a root or leads upward. -/
  | unnamed
deriving DecidableEq

/-- Walks a path up to its last part. -/
def spot (d : Disk) (p : Path) : Except DiskCause Spot := do
  checkLength p
  match p.parts.getLast? with
  | none => return .unnamed
  | some name =>
    let t ← d.walk p.parent
    if !(d.nodeOn t).isDirectory then throw .notDirectory
    if name = upward then return .unnamed
    if maxNameLength < byteLength name then throw .nameTooLong
    return .named (t.location ++ [name])

/-- A path with a barred code point leads nowhere. -/
def hasBarred (p : Path) : Bool :=
  p.parts.any fun part => part.any CodePoint.isBarred

/-- Whether something that `test` accepts stands where a path leads. That nothing stands there is
an answer; only excessive length is a refusal. -/
def stands (d : Disk) (test : DiskNode → Bool) (p : Path) : Except DiskError Bool :=
  if hasBarred p then .ok false
  else match d.find p with
    | .ok n => .ok (test n)
    | .error .nameTooLong => .error ⟨.nameTooLong, p.toText, none⟩
    | .error _ => .ok false

def isDirectory (d : Disk) (p : Path) : Except DiskError Bool :=
  d.stands DiskNode.isDirectory p

def isFile (d : Disk) (p : Path) : Except DiskError Bool :=
  d.stands (fun n => !n.isDirectory) p

def read (d : Disk) (p : Path) : Except DiskError Bytes :=
  match d.find p with
  | .ok (.file content) => .ok content
  | .ok (.directory _) => .error ⟨.isDirectory, p.toText, none⟩
  | .error cause => .error ⟨cause, p.toText, none⟩

def list (d : Disk) (p : Path) : Except DiskError (List Text) :=
  match d.find p with
  | .ok (.directory held) => .ok (held.map (·.1))
  | .ok (.file _) => .error ⟨.notDirectory, p.toText, none⟩
  | .error cause => .error ⟨cause, p.toText, none⟩

end Disk

end Phrasebook
