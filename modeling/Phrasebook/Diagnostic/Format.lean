import Phrasebook.Diagnostic
import Phrasebook.Json.Writer

/-!
The printed forms of a diagnostic: a compiler's report over several lines, a single line, and a
JSON object for tools. Colour is only for the first two.
-/

namespace Phrasebook.Diagnostic

inductive Format where
  | report
  | line
  | json
deriving DecidableEq

namespace Format

/-- Every format, in the order in which they are offered. -/
def all : List Format := [.report, .line, .json]

def label : Format → Text
  | .report => "rust"
  | .line => "simple"
  | .json => "json"

def ofLabel? (t : Text) : Option Format :=
  all.find? fun f => f.label == t

def unknownMessage (quotedName : Text) : Text :=
  quotedName ++ " is not a valid OutputFormat"

end Format

/-- A text in bold, in the terminal's colour of the given number. -/
def bold (colour t : Text) : Text :=
  "\x1b[1;" ++ colour ++ "m" ++ t ++ "\x1b[0m"

def red : Text := "31"

def yellow : Text := "33"

/-- An optional text, an empty one counting as absent. -/
def nonempty? : Option Text → Option Text
  | some (c :: t) => some (c :: t)
  | _ => none

/-- The head line of a report, with the severity in colour if `colour` is set. -/
def headLine (colour : Bool) (d : Diagnostic) : Text :=
  let grade :=
    match d.severity, colour with
    | .warning, true => bold yellow Severity.warning.label
    | .warning, false => Severity.warning.label
    | _, true => bold red Severity.error.label
    | _, false => Severity.error.label
  grade ++ "[" ++ d.code.label ++ "]: " ++ d.message

def fileLine (path : Text) : Text :=
  "  --> " ++ path

def helpLine (hint : Text) : Text :=
  "  = help: " ++ hint

/-- The report: the head line, then the file and the hint where there are any. -/
def report (colour : Bool) (d : Diagnostic) : Text :=
  Text.joined "\n" <|
    headLine colour d :: (nonempty? d.sourcePath).toList.map fileLine ++
      (nonempty? d.hint).toList.map helpLine

/-- A text on one line: its line feeds become spaces. -/
def unbroken (t : Text) : Text :=
  t.map fun c : CodePoint => if c = '\n' then ' ' else c

/-- The single line: the code and the message, line feeds in it becoming spaces. -/
def line (colour : Bool) (d : Diagnostic) : Text :=
  let code := if colour then bold red d.code.label else d.code.label
  code ++ ": " ++ unbroken d.message

/-- The member for a text that may be absent or empty. -/
def optionalMember (name : Text) (t : Option Text) : List (Text × Json) :=
  (nonempty? t).toList.map fun t => (name, Json.text t)

/-- The members of the JSON object. Absent and empty optional texts are left out. -/
def members (d : Diagnostic) : List (Text × Json) :=
  let always : List (Text × Json) :=
    [("code", .text d.code.label), ("code_value", .integer d.code.number),
      ("message", .text d.message), ("severity", .text d.severity.label)]
  always ++
  optionalMember "source_path" d.sourcePath ++ optionalMember "locale_code" d.localeCode ++
  optionalMember "key" d.key ++ optionalMember "hint" d.hint

def formatted (format : Format) (colour : Bool) (d : Diagnostic) : Text :=
  match format with
  | .report => d.report colour
  | .line => d.line colour
  | .json => (Json.object d.members).written

/-- Several diagnostics, one below the other. -/
def formattedAll (format : Format) (colour : Bool) (ds : List Diagnostic) : Text :=
  Text.joined "\n" (ds.map (formatted format colour))

end Phrasebook.Diagnostic
