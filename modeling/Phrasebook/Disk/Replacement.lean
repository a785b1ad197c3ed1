import Phrasebook.Trouble

/-!
Replacing a file as a whole. The new content is written to a scratch file in the same directory,
and the scratch file is then moved onto the target. If a step fails, the scratch file is taken away
again and the target is as it was.
-/

namespace Phrasebook.Disk

/-- Resolves the parts that lead upward by the text alone. -/
def collapse (parts : List Text) : List Text :=
  parts.foldl (fun passed part => if part = upward then passed.dropLast else passed ++ [part]) []

/-- The path from the root, without parts that lead upward. -/
def absolute (d : Disk) (p : Path) : Path :=
  match p.root with
  | .relative => ⟨.single, collapse (d.workingDirectory ++ p.parts)⟩
  | root => ⟨root, collapse p.parts⟩

/-- The name of the scratch file for a file, with a tag that makes it unique. -/
def scratchName (name tag : Text) : Text :=
  "." ++ name ++ "." ++ tag ++ ".tmp"

structure Scratch where
  path : Path
  location : Location

/-- Creates an empty scratch file with the first of the tags that is not in use. -/
def createScratch (d : Disk) (dir : Path) (name : Text) :
    (tags : List Text) → Except Trouble (Disk × Scratch)
  | [] => .error (.disk ⟨.exists, dir.toText, none⟩)
  | tag :: tags =>
    let path : Path := { dir with parts := dir.parts ++ [scratchName name tag] }
    if hasBarred path then .error (.ofBarred path)
    else match d.spot path with
      | .error cause => .error (.disk ⟨cause, path.toText, none⟩)
      | .ok .unnamed => .error (.disk ⟨.isDirectory, path.toText, none⟩)
      | .ok (.named l) =>
        match d.get l with
        | some _ => createScratch d dir name tags
        | none => .ok (d.put l (.file []), ⟨path, l⟩)

/-- Moves a scratch file with its content onto a target that is no directory. -/
def moveOnto (d : Disk) (scratch : Scratch) (content : Bytes) (target : Path) :
    Except Trouble Disk :=
  let refuse (cause : DiskCause) : Except Trouble Disk :=
    .error (.disk ⟨cause, scratch.path.toText, some target.toText⟩)
  if hasBarred target then .error (.ofBarred target)
  else match d.spot target with
    | .error cause => refuse cause
    | .ok .unnamed => refuse .busy
    | .ok (.named l) =>
      match d.get l with
      | some (.directory _) => refuse .isDirectory
      | _ => .ok ((d.put l (.file content)).erase scratch.location)

/-- Replaces a file, or makes it, with the given text. -/
def replaceFile (tags : List Text) (d : Disk) (target : Path) (content : Text) :
    Disk × Except Trouble Unit :=
  match d.createScratch (d.absolute target.parent) target.name tags with
  | .error trouble => (d, .error trouble)
  | .ok (opened, scratch) =>
    match Utf8.encode content with
    | .error e => (opened.erase scratch.location, .error (.encoding e))
    | .ok bytes =>
      let filled := opened.put scratch.location (.file bytes)
      match filled.moveOnto scratch bytes target with
      | .error trouble => (filled.erase scratch.location, .error trouble)
      | .ok moved => (moved, .ok ())

end Phrasebook.Disk
