import Phrasebook.CommandLine.Arguments
import Phrasebook.Generation
import Phrasebook.Settings.File

/-!
Running the program from the command line: the settings are loaded, the package is generated or
only checked, and what happens is reported line by line. A failure is reported by its diagnostic.
-/

namespace Phrasebook.CommandLine

/-- What a run leaves behind for the caller. -/
structure Answer where
  exitCode : Nat
  output : Text
  errors : Text
deriving DecidableEq

/-- What a run is given besides its arguments: whether errors go to a terminal, tags for scratch
files, and the display data. -/
structure Environment where
  isTerminal : Bool
  tags : List Text
  data : DisplayData

/-- The reported events, one to a line. Details are left out unless asked for. -/
def eventLines (verbose : Bool) (events : List Event) : Text :=
  (events.filter fun e => verbose || !e.isDetail).flatMap fun e => e.message ++ "\n"

/-- The last event of a run that succeeds. -/
def closing (check : Bool) (s : Settings) (g : Generated) : Event :=
  if check then .validatedAll g.locales.length
  else .generatedAll g.locales.length s.outputDir

def Choices.settingsFile (choices : Choices) : Except Trouble (Option Path) :=
  match choices.config with
  | none => .ok none
  | some none => .error .noSettingsFile
  | some (some name) => .ok (some (Path.ofText name))

def perform (env : Environment) (choices : Choices) (d : Disk) :
    Disk × Traced Trouble Unit :=
  let loaded : Traced Trouble Settings := do
    let asked ← Traced.ofExcept choices.settingsFile
    Settings.load d asked
  match loaded.outcome with
  | .error _ => (d, loaded >>= fun _ => pure ())
  | .ok settings =>
    let g : Generator := { settings, source := .display env.data }
    let (d, ran) := g.run env.tags choices.check d
    (d, do
      let settings ← loaded
      let result ← ran
      Traced.note (closing choices.check settings result))

/-- The paths that a run with these arguments looks at, as far as the disk tells: the settings file,
and the directories that it names. -/
def consulted (arguments : List Text) (d : Disk) : List Path :=
  match parse arguments with
  | .error _ => []
  | .ok choices =>
    match choices.settingsFile with
    | .error _ => []
    | .ok asked =>
      let directories := match (Settings.load d asked).outcome with
        | .ok s => [s.inputDir, s.outputDir]
        | .error _ => []
      asked.getD Settings.defaultFile :: directories

def run (env : Environment) (arguments : List Text) (d : Disk) : Disk × Except Trouble Answer :=
  match parse arguments with
  | .error .help => (d, .ok ⟨0, help, []⟩)
  | .error (.misuse m) => (d, .ok ⟨2, [], m.report⟩)
  | .ok choices =>
    match choices.format with
    | none => (d, .error .noFormat)
    | some format =>
      let (d, performed) := perform env choices d
      let lines := eventLines choices.verbose performed.events
      match performed.outcome with
      | .ok () => (d, .ok ⟨0, [], lines⟩)
      | .error (.failure f) =>
        let words := f.diagnostic.formatted format env.isTerminal
        (d, .ok ⟨1, [], lines ++ words ++ "\n"⟩)
      | .error trouble => (d, .error trouble)

end Phrasebook.CommandLine
