import Phrasebook.Disk.Directories
import Phrasebook.Disk.Replacement
import Phrasebook.Emitted.LanguageModule
import Phrasebook.Emitted.LookupModule
import Phrasebook.Locale.Display
import Phrasebook.PhraseFile
import Phrasebook.Schema
import Phrasebook.Settings

/-!
Generation: from the phrase files of the input directory to the modules of the package. All
modules are built before the first is written, so a run that fails earlier leaves the output
directory as it is; each file is then replaced as a whole, in order.
-/

namespace Phrasebook

/-- Where a generator has its reference tables from. -/
inductive ReferenceSource where
  | given (r : Reference)
  | display (data : DisplayData)

/-- What a run starts from. -/
structure Generator where
  settings : Settings
  source : ReferenceSource
  loader : Loader := Phrases.fileLoader Phrases.maxFileSize

/-- What a run makes. -/
structure Generated where
  groups : List LanguageGroup
  bundles : List Bundle
  table : LookupTable
  outputs : List (Text × Text)
  written : List Path := []

/-- Every locale of the package, language by language. -/
def Generated.locales (g : Generated) : List Locale :=
  g.table.locales

/-- The file of the package's index. -/
def packageFile : Text := "__init__.py"

namespace Generator

variable (g : Generator)

def reference : Except Failure Reference :=
  match g.source with
  | .given r => .ok r
  | .display data =>
    match data.reference g.settings.displayLocale with
    | .ok r => .ok r
    | .error _ =>
      .error (.invalidSettings
        ("unknown display-locale " ++ g.settings.displayLocale.quoted) none)

/-- The modules of the package, with their file names. -/
def outputs (r : Reference) (bundles : List Bundle) (table : LookupTable) (keys : List Text) :
    List (Text × Text) :=
  let p := g.settings.classPrefix
  bundles.map (fun b => (moduleFile (p.moduleOf b.1), languageModuleSource p r b)) ++
    [(moduleFile p.lookupModule, LookupModule.source p table keys),
      (packageFile, packageSource p)]

/-- Checks the input and makes all modules, without writing any. -/
def build (d : Disk) : Traced Trouble Generated := do
  let s := g.settings
  let r ← Traced.ofExcept (Trouble.ofFailure g.reference)
  let files ← PhraseFile.inDirectory d s.inputDir r
  let template ← Traced.ofExcept
    (Trouble.ofFailure (PhraseFile.templateOf files s.inputDir s.template))
  let groups ← Groups.build s.inputDir.toText (files.map (·.locale))
  let sets ← PhraseFile.loadAll d g.loader files
  let templateSet ← Traced.ofExcept (Bundle.setOf sets template.locale)
  let schema ← Traced.ofExcept (Trouble.ofFailure (Schema.ofTemplate templateSet))
  schema.checkAll sets
  let bundles ← Bundle.ofGroups s.classPrefix sets groups
  let table := LookupTable.ofGroups s.classPrefix groups
  return { groups, bundles, table, outputs := g.outputs r bundles table schema.keys }

end Generator

namespace Output

/-- Writes files into a directory one by one, up to the first that cannot be written. -/
def writeFiles (tags : List Text) (dir : Path) :
    Disk → List (Text × Text) → Disk × Traced Trouble (List Path)
  | d, [] => (d, pure [])
  | d, (name, content) :: files =>
    let path := dir.joinText name
    match d.replaceFile tags path content with
    | (d, .error (.disk e)) => (d, throw (.failure (.unwritable path.toText e.message)))
    | (d, .error trouble) => (d, throw trouble)
    | (d, .ok ()) =>
      let (d, rest) := writeFiles tags dir d files
      (d, do
        Traced.note (.wrote path)
        let paths ← rest
        return path :: paths)

/-- Makes the directory, where none stands yet, and writes files into it. -/
def write (tags : List Text) (dir : Path) (d : Disk) (files : List (Text × Text)) :
    Disk × Traced Trouble (List Path) :=
  if Disk.hasBarred dir then (d, throw (.ofBarred dir))
  else match d.ensureDirectories dir with
    | (d, .error (.disk e)) => (d, throw (.failure (.unwritable dir.toText e.message)))
    | (d, .error trouble) => (d, throw trouble)
    | (d, .ok ()) => writeFiles tags dir d files

end Output

/-- Runs a generator; unless `check` is set, the modules are written. -/
def Generator.run (g : Generator) (tags : List Text) (check : Bool) (d : Disk) :
    Disk × Traced Trouble Generated :=
  let built := g.build d
  match built.outcome with
  | .error _ => (d, built)
  | .ok result =>
    if check then (d, built)
    else
      let (d, writing) := Output.write tags g.settings.outputDir d result.outputs
      (d, do
        let result ← built
        let written ← writing
        return { result with written })

end Phrasebook
