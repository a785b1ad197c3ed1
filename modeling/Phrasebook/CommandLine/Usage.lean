import Phrasebook.Diagnostic.Format
import Phrasebook.Text.Quoted

/-!
What the command line tells about itself: the options, the usage line, the help and the messages
about arguments that cannot be understood.
-/

namespace Phrasebook.CommandLine

def programName : Text := "typedloc"

inductive Choice where
  | help
  | config
  | check
  | format
  | verbose
deriving DecidableEq

namespace Choice

/-- The spellings of the options, in the order in which they are listed. -/
def spellings : List (Text × Choice) :=
  [("-h", .help), ("--help", .help), ("--config", .config), ("--check", .check),
    ("--format", .format), ("-v", .verbose), ("--verbose", .verbose)]

def ofSpelling? (t : Text) : Option Choice :=
  spellings.lookup t

def takesValue : Choice → Bool
  | .config | .format => true
  | .help | .check | .verbose => false

/-- How messages name an option. -/
def label (c : Choice) : Text :=
  Text.joined "/" ((spellings.filter fun s => s.2 == c).map (·.1))

end Choice

/-- Why arguments cannot be understood. -/
inductive Misuse where
  | valueExpected (c : Choice)
  | valueIgnored (c : Choice) (value : Text)
  | unknownFormat (value : Text)
  | ambiguous (argument : Text) (spellings : List Text)
  | unrecognized (arguments : List Text)
deriving DecidableEq

def aboutChoice (c : Choice) (t : Text) : Text :=
  "argument " ++ c.label ++ ": " ++ t

def Misuse.message : Misuse → Text
  | .valueExpected c => aboutChoice c "expected one argument"
  | .valueIgnored c value => aboutChoice c ("ignored explicit argument " ++ value.quoted)
  | .unknownFormat value =>
    aboutChoice .format ("invalid choice: " ++ value.quoted ++ " (choose from " ++
      Text.joined ", " (Diagnostic.Format.all.map fun f => f.label.quoted) ++ ")")
  | .ambiguous argument spellings =>
    "ambiguous option: " ++ argument ++ " could match " ++ Text.joined ", " spellings
  | .unrecognized arguments => "unrecognized arguments: " ++ Text.joined " " arguments

def usage : Text :=
  "usage: typedloc [-h] [--config CONFIG] [--check] [--format \x7brust,simple,json\x7d]\n" ++
    "                [-v]\n"

def help : Text :=
  usage ++ "\nGenerate typed translation classes from per-locale JSON files.\n\noptions:\n" ++
    "  -h, --help            show this help message and exit\n" ++
    "  --config CONFIG       TOML file with a [tool.typedloc] table (default:\n" ++
    "                        ./pyproject.toml)\n" ++
    "  --check               Validate translation files without writing output\n" ++
    "  --format \x7brust,simple,json\x7d\n" ++
    "                        Diagnostic output format (default: simple)\n" ++
    "  -v, --verbose         Log every discovered file and group\n"

def Misuse.report (m : Misuse) : Text :=
  usage ++ programName ++ ": error: " ++ m.message ++ "\n"

end Phrasebook.CommandLine
