import Phrasebook.CommandLine.Run
import Phrasebook.Locale.DisplayFile

/-!
The program. What a run looks at is copied from the real disk, the run is computed, and what it
changed is put back, each file as a whole. The display data are in a file beside the program.
-/

namespace Phrasebook.Program

/-- A text as a string. Surrogates, which a string cannot hold, appear as escapes. -/
def shown (t : Text) : String :=
  String.ofList (t.flatMap fun c =>
    match c.toChar? with
    | some character => [character]
    | none => (c.numbered).filterMap CodePoint.toChar?)

def realPath (l : Location) :=
  System.mkFilePath ["/" ++ "/".intercalate (l.map shown)]

/-- What really stands at a location; of a directory, only that it stands there. -/
def nodeAt (l : Location) : IO (Option DiskNode) := do
  if ← (realPath l).isDir then return some (.directory [])
  if ← (realPath l).pathExists then
    return some (.file (← IO.FS.readBinFile (realPath l)).toList)
  return none

def copyNode (d : Disk) (l : Location) : IO Disk := do
  if (d.get l).isSome then return d
  match ← nodeAt l with
  | some n => return d.put l n
  | none => return d

/-- Copies what stands at a path, above it and right below it. -/
def copyIn (d : Disk) (p : Path) : IO Disk := do
  let l := (d.absolute p).parts
  let d ← (List.range l.length).foldlM (fun d n => copyNode d (l.take (n + 1))) d
  match d.get l with
  | some (.directory _) =>
    (← (realPath l).readDir).foldlM
      (fun d entry => copyNode d (l ++ [Text.ofString entry.fileName])) d
  | _ => return d

/-- Puts a file on the real disk in one move. -/
def replaceFile (tag : Text) (l : Location) (content : Bytes) : IO Unit := do
  let scratch := realPath (l.dropLast ++ [Disk.scratchName (l.getLastD []) tag])
  IO.FS.writeBinFile scratch (ByteArray.mk content.toArray)
  IO.FS.rename scratch (realPath l)

/-- Puts back what a run changed. Directories come before what stands in them. -/
def putBack (tag : Text) (before after : Disk) : IO Unit :=
  after.root.contents.forM fun (l, n) => do
    match n, before.get l with
    | .directory _, none => IO.FS.createDir (realPath l)
    | .file content, some (.file old) =>
      if content ≠ old then replaceFile tag l content
    | .file content, none => replaceFile tag l content
    | _, _ => return

/-- The display data beside the program; none if there is no such file. -/
def displayData : IO (Except Text DisplayData) := do
  let file := (← IO.appDir) / "display-names.json"
  if ← file.pathExists then
    return DisplayData.ofBytes (← IO.FS.readBinFile file).toList
  return .ok []

def run (arguments : List Text) : IO UInt32 := do
  match ← displayData with
  | .error reason =>
    IO.eprintln s!"display-names.json: {shown reason}"
    return 1
  | .ok data =>
    let isTerminal ← (← IO.getStderr).isTty
    let tag := Text.hex 8 (← IO.rand 0 0xFFFFFFFF)
    let here := (Path.ofText (Text.ofString (← IO.currentDir).toString)).parts
    let bare : Disk := ⟨.directory [], here⟩
    let bare ← copyIn bare ⟨.relative, []⟩
    let first ← (CommandLine.consulted arguments bare).foldlM copyIn bare
    let before ← (CommandLine.consulted arguments first).foldlM copyIn first
    let (after, outcome) := CommandLine.run ⟨isTerminal, [tag], data⟩ arguments before
    putBack tag before after
    match outcome with
    | .ok answer =>
      IO.print (shown answer.output)
      IO.eprint (shown answer.errors)
      return answer.exitCode.toUInt32
    | .error trouble =>
      IO.eprintln (shown trouble.words)
      return 1

end Phrasebook.Program

def main (arguments : List String) : IO UInt32 :=
  Phrasebook.Program.run (arguments.map Phrasebook.Text.ofString)
