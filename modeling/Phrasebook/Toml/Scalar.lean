import Phrasebook.Text.Document
import Phrasebook.Toml.Value

/-!
The scalars of a TOML document: texts in their four forms, dates and times, and numbers. Each
reader takes the document from the scalar on and gives back what follows it.
-/

namespace Phrasebook.Toml

/-- Why a document cannot be read. `left` counts the characters from the fault on. -/
inductive Fault where
  | misplaced (complaint : Complaint) (left : Nat)
  | oversized (digits : Nat)
  | tooDeep
deriving DecidableEq

/-- The place of a fault; the end of the document has no line and column. -/
def shownPlace (document : List Char) (left : Nat) : Text :=
  if left = 0 then "end of document"
  else
    let p := Place.ofLeft document left
    "line " ++ Text.ofNat p.line ++ ", column " ++ Text.ofNat p.column

def Complaint.message (document : List Char) (left : Nat) (complaint : Complaint) : Text :=
  complaint.phrase ++ " (at " ++ shownPlace document left ++ ")"

/-- The fault that stands where `here` begins. -/
def fail {α : Type} (complaint : Complaint) (here : List Char) : Except Fault α :=
  .error (.misplaced complaint here.length)

/-! ### Blanks -/

def isBlank (c : Char) : Bool :=
  c == ' ' || c == '\t'

def isBlankOrNewline (c : Char) : Bool :=
  isBlank c || c == '\n'

def skipBlanks (cs : List Char) : List Char :=
  cs.dropWhile isBlank

/-- Control characters, the tab excepted. -/
def isControl (c : Char) : Bool :=
  (c.toNat < 0x20 && c != '\t') || c.toNat == 0x7F

/-- Control characters that may not stand in a text over several lines. -/
def isControlInLine (c : Char) : Bool :=
  isControl c && c != '\n'

/-- Checks that none of the leading `count` characters is barred, and drops them. -/
def passOver (barred : Char → Bool) (count : Nat) (cs : List Char) : Except Fault (List Char) :=
  let passed := cs.take count
  let good := (passed.takeWhile fun c => !barred c).length
  match passed.drop good with
  | [] => .ok (cs.drop count)
  | c :: _ => fail (.found (.ofChar c)) (cs.drop good)

/-- Skips a comment, up to the end of its line. -/
def skipComment : List Char → Except Fault (List Char)
  | '#' :: cs => passOver isControl (cs.takeWhile (· ≠ '\n')).length cs
  | cs => .ok cs

/-! ### Texts -/

/-- How many characters stand before the first occurrence of `ending`. -/
def distance? (ending : List Char) (count : Nat) : List Char → Option Nat
  | [] => none
  | c :: cs => if ending.isPrefixOf (c :: cs) then some count else distance? ending (count + 1) cs

/-- Reads a text without escapes up to its ending. -/
def readLiteral (ending : List Char) (barred : Char → Bool) (cs : List Char) :
    Except Fault (Text × List Char) :=
  match distance? ending 0 cs with
  | none => fail (.missing (Text.ofChars ending)) []
  | some count => do
    let rest ← passOver barred count cs
    return (Text.ofChars (cs.take count), rest.drop ending.length)

/-- The code point that a letter stands for after a backslash. -/
def escaped? : Char → Option CodePoint
  | 'b' => some '\x08'
  | 't' => some '\t'
  | 'n' => some '\n'
  | 'f' => some '\x0c'
  | 'r' => some '\r'
  | '"' => some '"'
  | '\\' => some '\\'
  | _ => none

/-- The code point numbered by the `width` hexadecimal digits at the front of `cs`. -/
def numbered (width : Nat) (cs : List Char) : Except Fault CodePoint :=
  let digits := cs.take width
  if digits.length ≠ width ∨ digits.any (fun c => (Numeral.digit? c).isNone) then
    fail .hexadecimal cs
  else
    let n := Numeral.value 16 digits
    if n.isValidChar then .ok (.ofNat n) else fail .scalar (cs.drop width)

/-- What a text with escapes is passing over. -/
inductive Passing where
  | nothing
  /-- The blanks between a backslash and the end of its line. -/
  | lineEnd
  /-- The blanks and newlines behind a backslash at the end of a line. -/
  | newlines
  /-- The remaining digits of a numbered escape. -/
  | digits (count : Nat)
deriving DecidableEq

/-- What is passed over behind `c`; nothing is given if `c` itself is to be read. -/
def Passing.over? : Passing → Char → Option Passing
  | .nothing, _ => none
  | .digits 0, _ => none
  | .digits (count + 1), _ => some (.digits count)
  | .lineEnd, c => if isBlank c then some .lineEnd else if c = '\n' then some .newlines else none
  | .newlines, c => if isBlankOrNewline c then some .newlines else none

/-- What a backslash and a letter stand for: the code point, if there is one, and what is passed
over behind them. -/
def readEscape (multiline : Bool) (letter : Char) (more : List Char) :
    Except Fault (Option CodePoint × Passing) :=
  if multiline && isBlank letter then .ok (none, .lineEnd)
  else if multiline && letter == '\n' then .ok (none, .newlines)
  else if letter = 'u' then (numbered 4 more).map fun p => (some p, .digits 4)
  else if letter = 'U' then (numbered 8 more).map fun p => (some p, .digits 8)
  else match escaped? letter with
    | some p => .ok (some p, .nothing)
    | none => fail .backslash more

/-- Reads a text with escapes up to its closing quotes, three of them if `multiline` is set.
`done` holds what is read, the latest first. -/
def readEscaped (multiline : Bool) (passing : Passing) (done : Text) :
    List Char → Except Fault (Text × List Char)
  | [] => fail .unterminated []
  | c :: rest =>
    match passing.over? c with
    | some next => readEscaped multiline next done rest
    | none =>
      if passing = .lineEnd then fail .backslash (c :: rest)
      else if c = '"' then
        if !multiline then .ok (done.reverse, rest)
        else match rest with
          | '"' :: '"' :: more => .ok (done.reverse, more)
          | _ => readEscaped multiline .nothing ('"' :: done) rest
      else if c = '\\' then
        match rest with
        | [] => fail .backslash []
        | letter :: more =>
          match readEscape multiline letter more with
          | .ok (point, next) => readEscaped multiline next (point.toList ++ done) more
          | .error fault => .error fault
      else if (if multiline then isControlInLine c else isControl c) then
        fail (.illegal (.ofChar c)) (c :: rest)
      else readEscaped multiline .nothing (.ofChar c :: done) rest

/-- Up to two more quotes right behind the three that close a text belong to the text. -/
def readClosingQuotes (mark : Char) (t : Text) : List Char → Text × List Char
  | c :: d :: rest =>
    if c = mark then
      if d = mark then (t ++ [.ofChar mark, .ofChar mark], rest)
      else (t ++ [.ofChar mark], d :: rest)
    else (t, c :: d :: rest)
  | [c] => if c = mark then (t ++ [.ofChar mark], []) else (t, [c])
  | [] => (t, [])

/-- A newline right behind the quotes that open a text over several lines is no part of it. -/
def skipFirstNewline : List Char → List Char
  | '\n' :: cs => cs
  | cs => cs

/-- Reads a text of one line whose opening quote `mark` is read. -/
def readLineText (mark : Char) (cs : List Char) : Except Fault (Text × List Char) :=
  if mark = '"' then readEscaped false .nothing [] cs
  else readLiteral [mark] isControl cs

/-- Reads a text whose opening quote `mark` is read, over several lines if two more follow. -/
def readText (mark : Char) (cs : List Char) : Except Fault (Text × List Char) :=
  if [mark, mark].isPrefixOf cs then do
    let body := skipFirstNewline (cs.drop 2)
    let (t, rest) ←
      if mark = '"' then readEscaped true .nothing [] body
      else readLiteral [mark, mark, mark] isControlInLine body
    return readClosingQuotes mark t rest
  else readLineText mark cs

/-! ### Dates and times -/

/-- The number that `count` decimal digits at the front write, if it lies between two bounds. -/
def digitsBetween (count low high : Nat) (cs : List Char) : Option (Nat × List Char) :=
  let ds := cs.take count
  let n := Numeral.value 10 ds
  if ds.length = count ∧ ds.all Char.isDigit ∧ low ≤ n ∧ n ≤ high then some (n, cs.drop count)
  else none

def skipMark (marks : List Char) : List Char → Option (List Char)
  | c :: cs => if marks.contains c then some cs else none
  | [] => none

/-- What follows the time at the front, if there is one: hours, minutes, seconds and an optional
fraction. -/
def skipTime (cs : List Char) : Option (List Char) := do
  let (_, cs) ← digitsBetween 2 0 23 cs
  let cs ← skipMark [':'] cs
  let (_, cs) ← digitsBetween 2 0 59 cs
  let cs ← skipMark [':'] cs
  let (_, cs) ← digitsBetween 2 0 59 cs
  match cs with
  | '.' :: d :: more => if d.isDigit then return more.dropWhile Char.isDigit else return cs
  | _ => return cs

/-- Skips the offset from universal time, if there is one. -/
def skipOffset (cs : List Char) : List Char :=
  match skipMark ['Z', 'z'] cs with
  | some rest => rest
  | none =>
    let offset : Option (List Char) := do
      let rest ← skipMark ['+', '-'] cs
      let (_, rest) ← digitsBetween 2 0 23 rest
      let rest ← skipMark [':'] rest
      let (_, rest) ← digitsBetween 2 0 59 rest
      return rest
    offset.getD cs

def isLeapYear (year : Nat) : Bool :=
  year % 4 == 0 && (year % 100 != 0 || year % 400 == 0)

def daysInMonth (year month : Nat) : Nat :=
  if month = 2 then if isLeapYear year then 29 else 28
  else if [4, 6, 9, 11].contains month then 30
  else 31

/-- What follows the date at the front, its time and offset included, if there is a date, and
whether the calendar has the date. -/
def skipDate (cs : List Char) : Option (Bool × List Char) := do
  let (year, cs) ← digitsBetween 4 0 9999 cs
  let cs ← skipMark ['-'] cs
  let (month, cs) ← digitsBetween 2 1 12 cs
  let cs ← skipMark ['-'] cs
  let (day, cs) ← digitsBetween 2 1 31 cs
  let valid := decide (1 ≤ year) && decide (day ≤ daysInMonth year month)
  match (skipMark ['T', 't', ' '] cs).bind skipTime with
  | some rest => return (valid, skipOffset rest)
  | none => return (valid, cs)

/-! ### Numbers -/

/-- How many digits stand at the front, beside `digits` and `count` before them, and how many
characters they take, single underscores between digits included. -/
def digitRun (isDigit : Char → Bool) (digits count : Nat) : List Char → Nat × Nat
  | [] => (digits, count)
  | c :: cs =>
    if isDigit c then digitRun isDigit (digits + 1) (count + 1) cs
    else if c = '_' ∧ count ≠ 0 then
      match cs with
      | d :: ds =>
        if isDigit d then digitRun isDigit (digits + 1) (count + 2) ds else (digits, count)
      | [] => (digits, count)
    else (digits, count)

def isDigitOf (base : Nat) (c : Char) : Bool :=
  match Numeral.digit? c with
  | some n => decide (n < base)
  | none => false

/-- The base that a letter behind a zero announces. -/
def base? : Char → Option Nat
  | 'x' => some 16
  | 'o' => some 8
  | 'b' => some 2
  | _ => none

/-- Reads an integer in a base that is announced. -/
def readBased? : List Char → Option (Value × List Char)
  | '0' :: letter :: cs =>
    match base? letter with
    | some base =>
      let (_, count) := digitRun (isDigitOf base) 0 0 cs
      if count = 0 then none else some (.integer, cs.drop count)
    | none => none
  | _ => none

/-- How many characters a fraction takes. -/
def fractionLength : List Char → Nat
  | '.' :: cs =>
    let (_, count) := digitRun Char.isDigit 0 0 cs
    if count = 0 then 0 else count + 1
  | _ => 0

/-- How many characters an exponent takes. -/
def exponentLength : List Char → Nat
  | [] => 0
  | e :: cs =>
    if e = 'e' ∨ e = 'E' then
      let sign := match cs with
        | c :: _ => if c = '+' ∨ c = '-' then 1 else 0
        | [] => 0
      let (_, count) := digitRun Char.isDigit 0 0 (cs.drop sign)
      if count = 0 then 0 else count + sign + 1
    else 0

/-- Reads a decimal number, whose sign is read. A zero stands alone before a fraction. -/
def readDecimal? (cs : List Char) : Option (Except Fault (Value × List Char)) :=
  let (digits, count) :=
    match cs with
    | '0' :: _ => (1, 1)
    | cs => digitRun Char.isDigit 0 0 cs
  if count = 0 then none
  else
    let afterInteger := cs.drop count
    let fraction := fractionLength afterInteger
    let afterFraction := afterInteger.drop fraction
    let exponent := exponentLength afterFraction
    if fraction + exponent ≠ 0 then some (.ok (.real, afterFraction.drop exponent))
    else if Numeral.maxDigits < digits then some (.error (.oversized digits))
    else some (.ok (.integer, afterInteger))

/-- What follows the word for a number that is not finite. -/
def skipNonFinite (cs : List Char) : Option (List Char) :=
  let unsigned := match cs with
    | c :: rest => if c = '+' ∨ c = '-' then rest else cs
    | [] => []
  if ['i', 'n', 'f'].isPrefixOf unsigned || ['n', 'a', 'n'].isPrefixOf unsigned then
    some (unsigned.drop 3)
  else none

def readNumber? (cs : List Char) : Option (Except Fault (Value × List Char)) :=
  match readBased? cs with
  | some found => some (.ok found)
  | none =>
    let decimal := match cs with
      | c :: rest => readDecimal? (if c = '+' ∨ c = '-' then rest else cs)
      | [] => none
    match decimal with
    | some outcome => some outcome
    | none => (skipNonFinite cs).map fun rest => .ok (.real, rest)

/-- Reads a date, a time or a number. -/
def readUnquoted (cs : List Char) : Except Fault (Value × List Char) :=
  match skipDate cs with
  | some (true, rest) => .ok (.moment, rest)
  | some (false, _) => fail .date cs
  | none =>
    match skipTime cs with
    | some rest => .ok (.moment, rest)
    | none =>
      match readNumber? cs with
      | some outcome => outcome
      | none => fail .value cs

end Phrasebook.Toml
