import Phrasebook.Event
import Phrasebook.Locale.Code
import Phrasebook.Phrases

/-!
Phrase files: which files of the input directory stand for which locales, and which of them is the
template. A file counts if its ending is that of phrase files; its locale is read off its name. No
two files may stand for one locale.
-/

namespace Phrasebook

/-- A phrase file with the locale that its name denotes. -/
structure PhraseFile where
  locale : Locale
  path : Path
deriving DecidableEq

namespace PhraseFile

def ending : Text := ".json"

/-- The names of the phrase files in a directory, in the order of their code points. -/
def names (d : Disk) (dir : Path) : Except DiskError (List Text) := do
  let names ← d.list dir
  let files ← names.filterM fun name => d.isFile (dir.joinText name)
  return (files.filter fun name => nameSuffix name == ending).mergeSort Text.le

/-- Takes the files in order; `found` holds those already taken. -/
def take (r : Reference) (found : List PhraseFile) :
    List Path → Traced Trouble (List PhraseFile)
  | [] => pure found
  | path :: paths =>
    match Locale.ofPath r path with
    | .error f => throw (.failure f)
    | .ok l =>
      match found.find? fun f => f.locale == l with
      | some first =>
        throw (.failure
          (.duplicateLocale l.canonical first.path.toText path.toText))
      | none => do
        Traced.note (.discovered path l)
        take r (found ++ [⟨l, path⟩]) paths

/-- The phrase files of the input directory, sorted by locale. -/
def inDirectory (d : Disk) (dir : Path) (r : Reference) : Traced Trouble (List PhraseFile) :=
  match d.isDirectory dir with
  | .error e => throw (.disk e)
  | .ok false => throw (.failure (.missingInputDirectory dir.toText))
  | .ok true =>
    match names d dir with
    | .error e => throw (.disk e)
    | .ok found => do
      let found ← take r [] (found.map dir.joinText)
      return found.mergeSort fun a b => a.locale.le b.locale

/-- The file name that a template setting means. -/
def templateName (template : Text) : Text :=
  if template.endsWith ending then template else template ++ ending

/-- The file of the template's locale. Codes are compared in normal spelling. -/
def templateOf (files : List PhraseFile) (dir : Path) (template : Text) :
    Except Failure PhraseFile :=
  let name := templateName template
  let wanted := Locale.normalize (name.before '.')
  match files.find? fun f => f.locale.canonical == wanted with
  | some f => .ok f
  | none => .error (.missingTemplate (dir.joinText name).toText)

def load (d : Disk) (loader : Loader) (f : PhraseFile) : Traced Trouble PhraseSet := do
  let entries ← Traced.ofExcept (loader d f.path)
  Traced.note (.loaded entries.length f.locale)
  return ⟨f.locale, f.path, entries⟩

def loadAll (d : Disk) (loader : Loader) : List PhraseFile → Traced Trouble (List PhraseSet)
  | [] => pure []
  | f :: fs => do
    let s ← load d loader f
    let rest ← loadAll d loader fs
    return s :: rest

end PhraseFile

end Phrasebook
