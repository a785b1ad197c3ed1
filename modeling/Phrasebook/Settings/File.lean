import Phrasebook.Event
import Phrasebook.Settings
import Phrasebook.Toml.Reader
import Phrasebook.Trouble

/-!
Settings files: TOML documents with a table of settings. Without a file, or without the table in
it, a run has the default settings; but a file that is asked for must exist.
-/

namespace Phrasebook.Settings

/-- The settings file that is looked for when none is asked for. -/
def defaultFile : Path := Path.ofText "pyproject.toml"

/-- The value that a TOML value gives to a setting. -/
def Given.ofToml : Toml.Value → Given
  | .text t => .text t
  | _ => .other

def standard : Except Failure Settings :=
  Draft.check {}

/-- What the table of a document says about the settings. -/
inductive Section where
  | absent
  | notTable
  | entries (entries : Toml.Entries)

/-- The settings in a document's table, under `tool` and the name of the program. -/
def Section.of (document : Toml.Entries) : Section :=
  match document.lookup (Text.ofString "tool") with
  | some (.table tool) =>
    match tool.lookup Event.settingsTable with
    | none => .absent
    | some (.table found) => .entries found
    | some _ => .notTable
  | _ => .absent

def refuse {α : Type} (reason : Text) (p : Path) : Except Trouble α :=
  .error (.failure (.invalidSettings reason (some p.toText)))

def document (p : Path) (bytes : Bytes) : Except Trouble Toml.Entries :=
  match Utf8.decode bytes with
  | .error e => refuse e.message p
  | .ok cs =>
    let text := Toml.unifyNewlines [] cs
    match Toml.read text with
    | .ok entries => .ok entries
    | .error (.misplaced complaint left) => refuse (complaint.message text left) p
    | .error (.oversized digits) => .error (.oversized digits)
    | .error .tooDeep => .error .tooDeep

def ofBytes (p : Path) (bytes : Bytes) : Traced Trouble Settings := do
  let document ← Traced.ofExcept (document p bytes)
  match Section.of document with
  | .absent => do
    Traced.note (.noSettingsTable p)
    Traced.ofExcept (Trouble.ofFailure standard)
  | .notTable =>
    Traced.ofExcept (refuse ("[tool." ++ Event.settingsTable ++ "] must be a table") p)
  | .entries entries =>
    Traced.ofExcept (Trouble.ofFailure
      (ofEntries (some p.toText) (entries.map fun e => (e.1, Given.ofToml e.2))))

/-- Loads the settings of a run, from the file that is asked for or else from the default one. -/
def load (d : Disk) (asked : Option Path) : Traced Trouble Settings :=
  let p := asked.getD defaultFile
  match d.isFile p with
  | .error e => Traced.ofExcept (.error (.disk e))
  | .ok false =>
    match asked with
    | some p => Traced.ofExcept (refuse "file not found" p)
    | none => do
      Traced.note (.noSettingsFile p)
      Traced.ofExcept (Trouble.ofFailure standard)
  | .ok true =>
    match d.read p with
    | .error e => Traced.ofExcept (refuse e.message p)
    | .ok bytes => ofBytes p bytes

end Phrasebook.Settings
