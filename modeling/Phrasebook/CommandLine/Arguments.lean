import Phrasebook.CommandLine.Usage
import Phrasebook.Path
import Phrasebook.Unicode.Property

/-!
Understanding arguments. A long option may be cut short as long as it stays unambiguous. Any option
may carry a value behind an equals sign, and short options may share one argument. After two dashes
no option follows; in the place of a value they stand for none. The program takes no arguments but
options, so all others are refused in the end.
-/

namespace Phrasebook.CommandLine

def dash : CodePoint := '-'

def equalsSign : CodePoint := '='

/-- An option as an argument mentions it. -/
structure Mention where
  choice : Choice
  /-- Whether the option is spelled with two dashes. -/
  isLong : Bool
  /-- What follows the option in the same argument. -/
  attached : Option Text
deriving DecidableEq

inductive ArgumentForm where
  | plain
  | mention (m : Mention)
  /-- It looks like an option, but there is none. -/
  | unknown
deriving DecidableEq

def isNegativeNumber (t : Text) : Bool :=
  let isDigit (c : CodePoint) : Bool := Unicode.decimalDigit.holds c.val
  let t := if t.endsWith "\n" then t.dropLast else t
  match t with
  | [] => false
  | c :: digits =>
    let fraction := (digits.dropWhile isDigit).drop 1
    c == dash &&
      ((digits != [] && digits.all isDigit) ||
        ((digits.dropWhile isDigit).head? == some dot && fraction != [] &&
          fraction.all isDigit))

/-- Whether a spelling has two dashes. -/
def isLongSpelling (t : Text) : Bool :=
  t.startsWith [dash, dash]

/-- The spellings that an argument with no exact match may mean. -/
def candidates (t : Text) : List (Text × Mention) :=
  if isLongSpelling t then
    let name := t.before equalsSign
    let attached := if t.contains equalsSign then some (t.after equalsSign) else none
    Choice.spellings.filterMap fun s =>
      if s.1.startsWith name then some (s.1, ⟨s.2, isLongSpelling s.1, attached⟩) else none
  else
    Choice.spellings.filterMap fun s =>
      if s.1 = t.take 2 then some (s.1, ⟨s.2, isLongSpelling s.1, some (t.drop 2)⟩)
      else if s.1.startsWith t then some (s.1, ⟨s.2, isLongSpelling s.1, none⟩)
      else none

def formOf (t : Text) : Except Misuse ArgumentForm :=
  if t.head? ≠ some dash then .ok .plain
  else match Choice.ofSpelling? t with
    | some c => .ok (.mention ⟨c, isLongSpelling t, none⟩)
    | none =>
      if t.length = 1 then .ok .plain
      else
        let name := t.before equalsSign
        match (if t.contains equalsSign then Choice.ofSpelling? name else none) with
        | some c => .ok (.mention ⟨c, isLongSpelling name, some (t.after equalsSign)⟩)
        | none =>
          match candidates t with
          | [(_, m)] => .ok (.mention m)
          | [] => .ok (if isNegativeNumber t || t.contains ' ' then .plain else .unknown)
          | several => .error (.ambiguous t (several.map (·.1)))

/-- The arguments with their forms. Two dashes, and all that follows them, are plain; `closed` is
set behind two dashes. The dashes themselves are no value for an option. -/
def formsOf (closed : Bool) : List Text → Except Misuse (List (Text × ArgumentForm))
  | [] => .ok []
  | t :: ts => do
    if closed then
      let rest ← formsOf true ts
      return (t, .plain) :: rest
    else if t = [dash, dash] then
      let rest ← formsOf true ts
      return (t, .unknown) :: rest
    else
      let form ← formOf t
      let rest ← formsOf false ts
      return (t, form) :: rest

/-- What the arguments ask for. -/
structure Choices where
  /-- The settings file, if the option is mentioned; it may have been given no value. -/
  config : Option (Option Text) := none
  check : Bool := false
  /-- The form of diagnostics, unless the option was given no value. -/
  format : Option Diagnostic.Format := some .line
  verbose : Bool := false
deriving DecidableEq

/-- How understanding the arguments ends early. -/
inductive Ending where
  | help
  | misuse (m : Misuse)
deriving DecidableEq

def Choices.apply (s : Choices) (value : Option Text) : Choice → Except Ending Choices
  | .help => .error .help
  | .config => .ok { s with config := some value }
  | .check => .ok { s with check := true }
  | .format =>
    match value with
    | none => .ok { s with format := none }
    | some label =>
      match Diagnostic.Format.ofLabel? label with
      | some f => .ok { s with format := some f }
      | none => .error (.misuse (.unknownFormat label))
  | .verbose => .ok { s with verbose := true }

/-- Does what options without values ask for, in order. -/
def Choices.applyAll (s : Choices) (flags : List Choice) : Except Ending Choices :=
  flags.foldlM (fun s c => s.apply none c) s

/-- The options in one argument: those before the last, and the last with what follows it. -/
structure Cluster where
  flags : List Choice
  last : Choice
  attached : Option Text
deriving DecidableEq

/-- The options that share an argument with the short option `c`, by the text that follows it. -/
def sharing (c : Choice) : Text → Except Misuse Cluster
  | [] => .ok ⟨[], c, none⟩
  | letter :: more =>
    if c.takesValue then .ok ⟨[], c, some (letter :: more)⟩
    else match Choice.ofSpelling? [dash, letter] with
      | none => .error (.valueIgnored c (letter :: more))
      | some next => (sharing next more).map fun found => { found with flags := c :: found.flags }

/-- The options that a mention stands for. Only short options that take no value share theirs. -/
def Mention.cluster (m : Mention) : Except Misuse Cluster :=
  match m.attached with
  | none => .ok ⟨[], m.choice, none⟩
  | some value =>
    if m.choice.takesValue then .ok ⟨[], m.choice, some value⟩
    else if m.isLong || value == [] then .error (.valueIgnored m.choice value)
    else sharing m.choice value

/-- The value that a text gives; two dashes give none. -/
def valueOf (t : Text) : Option Text :=
  if t = [dash, dash] then none else some t

/-- Lets a misuse end the understanding. -/
def orEnd {α : Type} : Except Misuse α → Except Ending α
  | .ok a => .ok a
  | .error m => .error (.misuse m)

/-- Takes the arguments in order; `extra` holds those that are no part of an option. -/
def takeAll (s : Choices) (extra : List Text) :
    List (Text × ArgumentForm) → Except Ending (Choices × List Text)
  | [] => .ok (s, extra)
  | (_, .mention m) :: rest => do
    let found ← orEnd m.cluster
    match found.attached, found.last.takesValue with
    | some value, _ => do
      let s ← s.applyAll found.flags
      let s ← s.apply (valueOf value) found.last
      takeAll s extra rest
    | none, false => do
      let s ← s.applyAll (found.flags ++ [found.last])
      takeAll s extra rest
    | none, true =>
      match rest with
      | (value, .plain) :: rest => do
        let s ← s.applyAll found.flags
        let s ← s.apply (valueOf value) found.last
        takeAll s extra rest
      | _ => .error (.misuse (.valueExpected found.last))
  | (t, _) :: rest => takeAll s (extra ++ [t]) rest

def parse (arguments : List Text) : Except Ending Choices := do
  let forms ← orEnd (formsOf false arguments)
  let (s, extra) ← takeAll {} [] forms
  if extra = [] then return s else throw (.misuse (.unrecognized extra))

end Phrasebook.CommandLine
