import Phrasebook.Text.Document

/-!
The tokens of a JSON document. Reading a token never fails: characters that begin none are stray,
and a broken text or an oversized number is a token of its own, so that whether it is a fault, and
which, is decided where the token stands.
-/

namespace Phrasebook.Json

/-- What is wrong inside a text. -/
inductive TextFault where
  | unterminated
  | control
  | escapeLetter
  | escapeDigits
deriving DecidableEq

inductive Token where
  | openBrace
  | closeBrace
  | openBracket
  | closeBracket
  | comma
  | colon
  | null
  | boolean (b : Bool)
  | integer (n : Int)
  | real
  | text (t : Text)
  /-- A text that is faulty where `left` characters of the document are still to be read. -/
  | brokenText (fault : TextFault) (left : Nat)
  /-- An integer of more digits than are converted. -/
  | oversized (digits : Nat)
  | stray
deriving DecidableEq

/-! ### Texts -/

def isHighSurrogate (c : CodePoint) : Bool :=
  decide (0xD800 ≤ c.val) && decide (c.val < 0xDC00)

def isLowSurrogate (c : CodePoint) : Bool :=
  decide (0xDC00 ≤ c.val) && decide (c.val < 0xE000)

/-- Puts a unit before a text, joining it with a surrogate that completes it. -/
def joinUnit (c : CodePoint) : Text → Text
  | [] => [c]
  | d :: t =>
    if isHighSurrogate c && isLowSurrogate d then
      .ofNat (0x10000 + (c.val - 0xD800) * 0x400 + (d.val - 0xDC00)) :: t
    else c :: d :: t

/-- Joins each high surrogate with the low one right after it. -/
def joinUnits (units : Text) : Text :=
  units.foldr joinUnit []

/-- The unit that four hexadecimal digits number. -/
def hexUnit? (a b c d : Char) : Option CodePoint := do
  let w ← Numeral.digit? a
  let x ← Numeral.digit? b
  let y ← Numeral.digit? c
  let z ← Numeral.digit? d
  return .ofNat (((w * 16 + x) * 16 + y) * 16 + z)

/-- The unit that a letter stands for after a backslash. -/
def escapedUnit? : Char → Option CodePoint
  | '"' => some '"'
  | '\\' => some '\\'
  | '/' => some '/'
  | 'b' => some '\x08'
  | 'f' => some '\x0c'
  | 'n' => some '\n'
  | 'r' => some '\r'
  | 't' => some '\t'
  | _ => none

/-- Reads the units of a text up to its closing quote; `all` is the document from the opening
quote on, and `done` holds the units read, the latest first. -/
def readUnits (all : List Char) (done : Text) :
    List Char → Except (TextFault × Nat) (Text × List Char)
  | [] => .error (.unterminated, all.length)
  | c :: rest =>
    if c = '"' then .ok (done.reverse, rest)
    else if c = '\\' then
      match rest with
      | [] => .error (.unterminated, all.length)
      | 'u' :: h₁ :: h₂ :: h₃ :: h₄ :: more =>
        match hexUnit? h₁ h₂ h₃ h₄ with
        | some unit =>
          if more.isEmpty then .error (.escapeDigits, rest.length)
          else readUnits all (unit :: done) more
        | none => .error (.escapeDigits, rest.length)
      | 'u' :: _ => .error (.escapeDigits, rest.length)
      | letter :: more =>
        match escapedUnit? letter with
        | some unit => readUnits all (unit :: done) more
        | none => .error (.escapeLetter, rest.length + 1)
    else if c.toNat < 0x20 then .error (.control, rest.length + 1)
    else readUnits all (CodePoint.ofChar c :: done) rest

/-- The token of a text whose opening quote is read. Nothing after a broken text is looked at. -/
def textToken (rest : List Char) : Token × List Char :=
  match readUnits ('"' :: rest) [] rest with
  | .ok (units, more) => (.text (joinUnits units), more)
  | .error (fault, left) => (.brokenText fault left, [])

/-! ### Numbers -/

def leadingDigits (cs : List Char) : List Char :=
  cs.takeWhile Char.isDigit

/-- The digits before a fraction: a zero stands alone. -/
def integerDigits : List Char → List Char
  | '0' :: _ => ['0']
  | cs => leadingDigits cs

/-- How many characters a fraction takes: none without a digit behind the point. -/
def fractionLength : List Char → Nat
  | '.' :: cs => let n := (leadingDigits cs).length; if n = 0 then 0 else n + 1
  | _ => 0

/-- How many characters an exponent takes: none without a digit in it. -/
def exponentLength : List Char → Nat
  | e :: cs =>
    if e = 'e' ∨ e = 'E' then
      match cs with
      | [] => 0
      | sign :: ds =>
        if sign = '+' ∨ sign = '-' then
          let n := (leadingDigits ds).length; if n = 0 then 0 else n + 2
        else let n := (leadingDigits cs).length; if n = 0 then 0 else n + 1
    else 0
  | [] => 0

/-- The token of a number whose sign is read, if there is a digit. -/
def number? (negative : Bool) (cs : List Char) : Option (Token × List Char) :=
  let ds := integerDigits cs
  if ds.isEmpty then none
  else
    let afterInteger := cs.drop ds.length
    let fraction := fractionLength afterInteger
    let afterFraction := afterInteger.drop fraction
    let exponent := exponentLength afterFraction
    if fraction + exponent ≠ 0 then some (.real, afterFraction.drop exponent)
    else if Numeral.maxDigits < ds.length then some (.oversized ds.length, afterInteger)
    else
      let n : Int := Numeral.value 10 ds
      some (.integer (if negative then -n else n), afterInteger)

/-! ### Tokens -/

/-- The words, each with its token and without its first letter. -/
def words : Char → Option (List Char × Token)
  | 'n' => some (['u', 'l', 'l'], .null)
  | 't' => some (['r', 'u', 'e'], .boolean true)
  | 'f' => some (['a', 'l', 's', 'e'], .boolean false)
  | 'N' => some (['a', 'N'], .real)
  | 'I' => some (['n', 'f', 'i', 'n', 'i', 't', 'y'], .real)
  | '-' => some (['I', 'n', 'f', 'i', 'n', 'i', 't', 'y'], .real)
  | _ => none

/-- The token of a word, if one begins with `c`. -/
def word? (c : Char) (rest : List Char) : Option (Token × List Char) :=
  match words c with
  | some (letters, token) =>
    if letters.isPrefixOf rest then some (token, rest.drop letters.length) else none
  | none => none

/-- The token that begins with `c`, and what follows it. -/
def nextToken (c : Char) (rest : List Char) : Token × List Char :=
  match c with
  | '{' => (.openBrace, rest)
  | '}' => (.closeBrace, rest)
  | '[' => (.openBracket, rest)
  | ']' => (.closeBracket, rest)
  | ',' => (.comma, rest)
  | ':' => (.colon, rest)
  | '"' => textToken rest
  | c =>
    match word? c rest with
    | some found => found
    | none =>
      match if c = '-' then number? true rest else number? false (c :: rest) with
      | some found => found
      | none => (.stray, rest)

theorem length_readUnits_le {all : List Char} {done units : Text} {cs more : List Char}
    (h : readUnits all done cs = .ok (units, more)) : more.length ≤ cs.length := by
  fun_induction readUnits all done cs <;> simp_all <;> omega

theorem length_number_lt {negative : Bool} {cs more : List Char} {t : Token}
    (h : number? negative cs = some (t, more)) : more.length < cs.length := by
  simp only [number?] at h
  split at h
  · simp at h
  · rename_i nonempty
    have positive : 0 < (integerDigits cs).length := by
      simpa [List.isEmpty_iff, List.length_pos_iff] using nonempty
    have bound : (integerDigits cs).length ≤ cs.length := by
      unfold integerDigits leadingDigits
      split
      · simp
      · exact (List.takeWhile_sublist _).length_le
    grind

/-- What follows a token is shorter than the document from the token on. -/
theorem length_nextToken_le (c : Char) (rest : List Char) :
    (nextToken c rest).2.length ≤ rest.length := by
  unfold nextToken
  split <;> try exact Nat.le_refl _
  · unfold textToken
    split
    · rename_i h
      exact length_readUnits_le h
    · exact Nat.zero_le _
  · split
    · rename_i h
      simp only [word?] at h
      grind
    · split
      · rename_i h
        split at h
        · exact Nat.le_of_lt (length_number_lt h)
        · exact Nat.lt_succ_iff.mp (length_number_lt h)
      · exact Nat.le_refl _

/-- A token with the document from its first character on. -/
structure Lexeme where
  token : Token
  document : List Char

def isSpace (c : Char) : Bool :=
  c == ' ' || c == '\t' || c == '\n' || c == '\r'

/-- The tokens of a document behind those already read, which are given from the latest on. -/
def lexemesAfter (done : List Lexeme) : List Char → List Lexeme
  | [] => done.reverse
  | c :: rest =>
    if isSpace c then lexemesAfter done rest
    else lexemesAfter (⟨(nextToken c rest).1, c :: rest⟩ :: done) (nextToken c rest).2
termination_by cs => cs.length
decreasing_by
  · simp
  · exact Nat.lt_succ_of_le (length_nextToken_le c rest)

def lexemes (document : List Char) : List Lexeme :=
  lexemesAfter [] document

end Phrasebook.Json
