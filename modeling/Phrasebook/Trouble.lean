import Phrasebook.Diagnostic.Format
import Phrasebook.Disk
import Phrasebook.Failure
import Phrasebook.Text.Document

/-!
What can end an operation early. Failures are for the user and carry a diagnostic. The others are
raised below the operations and pass through them as they are.
-/

namespace Phrasebook

inductive Trouble where
  | failure (f : Failure)
  /-- The disk refuses where no failure stands for that. -/
  | disk (e : DiskError)
  /-- A text to be written holds a surrogate. -/
  | encoding (e : Utf8.EncodeError)
  /-- An integer among the settings has too many digits. -/
  | oversized (digits : Nat)
  /-- The values of the settings file nest too deeply. -/
  | tooDeep
  /-- A directory is to be made below too many that are missing. -/
  | tooManyDirectories
  /-- A path to be opened, made or moved holds the null character. -/
  | nullCharacter
  /-- Such a path holds a surrogate that has no bytes. -/
  | surrogate (e : Utf8.EncodeError)
  /-- A collection of entries held in memory has none under a name. -/
  | absent (name : Text)
  /-- The form of diagnostics is to be chosen, but no choice is given. -/
  | noFormat
  /-- A settings file is asked for, but none is named. -/
  | noSettingsFile
deriving DecidableEq

/-- The words of a trouble that is no failure; a failure has a report instead. -/
def Trouble.words : Trouble → Text
  | .failure f => f.diagnostic.message
  | .disk e => e.message
  | .encoding e => e.message
  | .oversized digits => Numeral.oversizedMessage digits
  | .tooDeep => "maximum recursion depth exceeded"
  | .tooManyDirectories => "maximum recursion depth exceeded while calling a Python object"
  | .nullCharacter => "embedded null byte"
  | .surrogate e => e.message
  | .absent name => name.quoted
  | .noFormat => Diagnostic.Format.unknownMessage "[]"
  | .noSettingsFile => "'list' object has no attribute 'is_file'"

/-- The trouble with a path that holds a barred code point. A surrogate is met before the null
character, wherever they stand. -/
def Trouble.ofBarred (p : Path) : Trouble :=
  if p.toText.any CodePoint.isByteless then .surrogate (.ofFirst CodePoint.isByteless p.toText)
  else .nullCharacter

/-- Lets a failure end a run. -/
def Trouble.ofFailure {α : Type} : Except Failure α → Except Trouble α
  | .ok a => .ok a
  | .error f => .error (.failure f)

end Phrasebook
