import Phrasebook.Json.Reader
import Phrasebook.Json.Writer
import Phrasebook.Locale
import Phrasebook.Trouble

/-!
Phrases: the texts of one locale by key, as its file gives them. A phrase file is a UTF-8
JSON document with one flat object of texts. A loader is any way of getting the entries at a path;
the usual one reads such files from disk.
-/

namespace Phrasebook

/-- Keys with their texts, in the order of the file. -/
abbrev Phrases := List (Text × Text)

/-- The phrases of one locale. -/
structure PhraseSet where
  locale : Locale
  path : Path
  entries : Phrases
deriving DecidableEq

def PhraseSet.keys (s : PhraseSet) : List Text :=
  s.entries.map (·.1)

/-- A way of getting the phrases at a path. -/
abbrev Loader := Disk → Path → Except Trouble Phrases

namespace Phrases

/-- Phrase files of more bytes are refused. -/
def maxFileSize : Int := 10 * 1024 * 1024

/-- The texts of an object's members; otherwise the first member that is no text. -/
def textsOnly : List (Text × Json) → Except (Text × Json) Phrases
  | [] => .ok []
  | (key, .text t) :: ms => (textsOnly ms).map fun rest => (key, t) :: rest
  | (key, v) :: _ => .error (key, v)

/-- The phrases that a JSON value holds, or why it holds none. -/
def ofJson : Json → Except Text Phrases
  | .object members =>
    match textsOnly members with
    | .ok entries => .ok entries
    | .error (key, v) =>
      .error ("value of '" ++ key ++ "' is " ++ v.typeName ++ ", expected string")
  | v => .error ("expected a JSON object, got " ++ v.typeName)

/-- The phrases that the bytes of a file hold, or why they hold none. -/
def ofBytes (maxSize : Int) (bytes : Bytes) : Except Text Phrases :=
  if maxSize < bytes.length then
    .error ("file size " ++ Text.ofNat bytes.length ++ " exceeds limit of " ++
      Json.writtenInteger maxSize ++ " bytes")
  else match Utf8.decode bytes with
    | .error e => .error e.message
    | .ok document =>
      match Json.read document with
      | .error fault => .error (fault.message document)
      | .ok v => ofJson v

/-- The loader of phrase files of at most `maxSize` bytes. -/
def fileLoader (maxSize : Int) : Loader := fun d p =>
  if Disk.hasBarred p then .error (.ofBarred p)
  else match d.read p with
    | .error _ => .error (.failure (.missingFile p.toText))
    | .ok bytes =>
      match ofBytes maxSize bytes with
      | .ok entries => .ok entries
      | .error reason => .error (.failure (.invalidFile p.toText reason))

/-- The loader of entries held in memory, by file name. -/
def memoryLoader (files : List (Text × Phrases)) : Loader := fun _ p =>
  match files.lookup p.name with
  | some entries => .ok entries
  | none => .error (.absent p.name)

end Phrases

end Phrasebook
