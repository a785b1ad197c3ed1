import Phrasebook.ClassPrefix
import Phrasebook.Failure
import Phrasebook.Path

/-!
The settings of a run. Settings are drafted as texts and then checked: the template must be a plain
file name and the class prefix must be able to begin class names.
-/

namespace Phrasebook

structure Settings where
  inputDir : Path
  outputDir : Path
  /-- The template's file or locale; the ending of the file may be left out. -/
  template : Text
  /-- What every emitted name begins with. -/
  classPrefix : ClassPrefix
  /-- The locale in whose words languages and regions are named. -/
  displayLocale : Text
deriving DecidableEq

namespace Settings

/-- Settings as they are given, not yet checked. What is not given has its default. -/
structure Draft where
  inputDir : Text := "locale-input"
  outputDir : Text := "locale-output"
  template : Text := "en"
  classPrefix : Text := "L10n"
  displayLocale : Text := "en"
deriving DecidableEq

inductive Name where
  | inputDir
  | outputDir
  | template
  | classPrefix
  | displayLocale
deriving DecidableEq

namespace Name

def all : List Name := [.inputDir, .outputDir, .template, .classPrefix, .displayLocale]

/-- How a setting is written in a settings file. -/
def label : Name → Text
  | .inputDir => "input-dir"
  | .outputDir => "output-dir"
  | .template => "template"
  | .classPrefix => "class-prefix"
  | .displayLocale => "display-locale"

def ofLabel? (t : Text) : Option Name :=
  all.find? fun n => n.label == t

end Name

namespace Draft

def set (d : Draft) (n : Name) (t : Text) : Draft :=
  match n with
  | .inputDir => { d with inputDir := t }
  | .outputDir => { d with outputDir := t }
  | .template => { d with template := t }
  | .classPrefix => { d with classPrefix := t }
  | .displayLocale => { d with displayLocale := t }

end Draft

/-- Whether a text is a plain file name. -/
def isFileName (t : Text) : Bool :=
  t != [] && (Path.ofText t).name == t

/-- Checks a draft: the template first, then the class prefix. -/
def Draft.check (d : Draft) : Except Failure Settings :=
  if !isFileName d.template then
    .error (.invalidSettings ("template must be a file name, got " ++ d.template.quoted) none)
  else match ClassPrefix.ofText? d.classPrefix with
    | none =>
      .error (.invalidSettings
        ("class-prefix must be an ASCII identifier, got " ++ d.classPrefix.quoted) none)
    | some classPrefix =>
      .ok {
        inputDir := Path.ofText d.inputDir
        outputDir := Path.ofText d.outputDir
        template := d.template
        classPrefix
        displayLocale := d.displayLocale }

/-- A value that is given to a setting. Only texts are accepted. -/
inductive Given where
  | text (t : Text)
  | other
deriving DecidableEq

/-- The draft that entries make of another. The first entry that has an unknown name or gives no
text is refused; `source` is the file that the entries are from. -/
def draftFrom (source : Option Text) (d : Draft) :
    List (Text × Given) → Except Failure Draft
  | [] => .ok d
  | (label, given) :: entries =>
    match Name.ofLabel? label with
    | none => .error (.invalidSettings ("unknown setting '" ++ label ++ "'") source)
    | some n =>
      match given with
      | .other => .error (.invalidSettings ("'" ++ label ++ "' must be a string") source)
      | .text t => draftFrom source (d.set n t) entries

def ofEntries (source : Option Text) (entries : List (Text × Given)) : Except Failure Settings := do
  let d ← draftFrom source {} entries
  d.check

end Settings

end Phrasebook
