import Phrasebook.Trouble

/-!
Making directories. Those above a directory are made where they are missing, from the top down. To
find the first that is missing, the path is climbed part by part, but not without end.
-/

namespace Phrasebook.Disk

/-- Makes a directory in an existing one. -/
def makeDirectory (d : Disk) (p : Path) : Except DiskCause Disk := do
  match ← d.spot p with
  | .unnamed => throw .exists
  | .named l =>
    match d.get l with
    | some _ => throw .exists
    | none => return d.put l (.directory [])

/-- Makes a directory where none stands yet. -/
def ensureDirectory (d : Disk) (p : Path) : Except DiskError Disk :=
  match d.makeDirectory p with
  | .ok d => .ok d
  | .error cause => do
    if ← d.isDirectory p then return d
    throw ⟨cause, p.toText, none⟩

/-- A path is climbed over at most this many parts, with a call open for each: 1000 may be open at
once, and so many are left by a caller that has few open itself. -/
def maxClimb : Nat := 980

/-- Makes the directory whose path has the given parts, and those above it, where none stand yet;
`room` is how many parts may still be climbed. What was made stays when a later one is refused. -/
def ensureParts (root : Path.Root) : (room : Nat) → Disk → List Text → Disk × Except Trouble Unit
  | 0, d, _ => (d, .error .tooManyDirectories)
  | room + 1, d, parts =>
    match d.ensureDirectory ⟨root, parts⟩ with
    | .ok d => (d, .ok ())
    | .error e =>
      if e.cause = .notFound ∧ parts ≠ [] then
        match ensureParts root room d parts.dropLast with
        | (d, .error trouble) => (d, .error trouble)
        | (d, .ok ()) =>
          match d.ensureDirectory ⟨root, parts⟩ with
          | .ok d => (d, .ok ())
          | .error e => (d, .error (.disk e))
      else (d, .error (.disk e))

/-- Makes a directory and those above it, where none stand yet. -/
def ensureDirectories (d : Disk) (p : Path) : Disk × Except Trouble Unit :=
  ensureParts p.root maxClimb d p.parts

end Phrasebook.Disk
