import Phrasebook.Json.Token
import Phrasebook.Json.Value
import Phrasebook.Text.Document

/-!
Reading a JSON document. The reader takes the tokens one by one and keeps the open arrays and
objects on a stack. The first fault ends it: a token out of place, a broken text, an oversized
number, a key declared twice in one object, which shows when the object closes, or too many open
brackets.
-/

namespace Phrasebook.Json

/-- What was expected where a document is at fault. -/
inductive Complaint where
  | value
  | property
  | colon
  | comma
  | nothingMore
  | text (fault : TextFault)
deriving DecidableEq

def Complaint.phrase : Complaint → Text
  | .value => "Expecting value"
  | .property => "Expecting property name enclosed in double quotes"
  | .colon => "Expecting ':' delimiter"
  | .comma => "Expecting ',' delimiter"
  | .nothingMore => "Extra data"
  | .text .unterminated => "Unterminated string starting at"
  | .text .control => "Invalid control character at"
  | .text .escapeLetter => "Invalid \\escape"
  | .text .escapeDigits => "Invalid \\uXXXX escape"

/-- Why a document cannot be read. `left` counts the characters from the fault on. -/
inductive Fault where
  | byteOrderMark
  | misplaced (complaint : Complaint) (left : Nat)
  | oversized (digits : Nat)
  | duplicateKey (key : Text)
  | tooDeep
deriving DecidableEq

def placed (what : Text) (p : Place) : Text :=
  what ++ ": line " ++ Text.ofNat p.line ++ " column " ++ Text.ofNat p.column ++ " (char " ++
    Text.ofNat p.offset ++ ")"

def Fault.message (document : List Char) : Fault → Text
  | .byteOrderMark =>
    placed "Unexpected UTF-8 BOM (decode using utf-8-sig)" (.ofOffset document 0)
  | .misplaced complaint left => placed complaint.phrase (.ofLeft document left)
  | .oversized digits => Numeral.oversizedMessage digits
  | .duplicateKey key => "duplicate key '" ++ key ++ "'"
  | .tooDeep => "nesting too deep"

/-- At most this many arrays and objects may be open at once, since 1000 calls may be; those around
the reader are not counted. -/
def maxDepth : Nat := 1000

/-- An open array, or an open object with the key whose value is being read. What is complete
stands in it from the latest on. -/
inductive Frame where
  | array (done : List Json)
  | object (done : List (Text × Json)) (key : Text)

/-- What the reader waits for. -/
inductive Expectation where
  | value
  /-- A value, or the end of the array just opened. -/
  | firstItem
  /-- A key, or the end of the object just opened. -/
  | firstKey
  | key (done : List (Text × Json))
  | colon (done : List (Text × Json)) (key : Text)
  | itemEnd (done : List Json)
  | memberEnd (done : List (Text × Json))
  | documentEnd (result : Json)

structure ReaderState where
  stack : List Frame
  expects : Expectation

/-- The first key that an earlier member has already. -/
def firstRepeated (seen : List Text) : List (Text × Json) → Option Text
  | [] => none
  | (k, _) :: ms => if seen.contains k then some k else firstRepeated (k :: seen) ms

/-- Hands a complete value to the innermost open frame. -/
def deliver (stack : List Frame) (v : Json) : ReaderState :=
  match stack with
  | [] => ⟨[], .documentEnd v⟩
  | .array done :: rest => ⟨rest, .itemEnd (v :: done)⟩
  | .object done key :: rest => ⟨rest, .memberEnd ((key, v) :: done)⟩

def closeObject (stack : List Frame) (done : List (Text × Json)) : Except Fault ReaderState :=
  let members := done.reverse
  match firstRepeated [] members with
  | some key => .error (.duplicateKey key)
  | none => .ok (deliver stack (.object members))

/-- Takes the first token of a value, the frames of `stack` being open around it. -/
def beginValue (stack : List Frame) (t : Token) (here : List Char) : Except Fault ReaderState :=
  match t with
  | .openBrace => if stack.length < maxDepth then .ok ⟨stack, .firstKey⟩ else .error .tooDeep
  | .openBracket => if stack.length < maxDepth then .ok ⟨stack, .firstItem⟩ else .error .tooDeep
  | .null => .ok (deliver stack .null)
  | .boolean b => .ok (deliver stack (.boolean b))
  | .integer n => .ok (deliver stack (.integer n))
  | .real => .ok (deliver stack .real)
  | .text t => .ok (deliver stack (.text t))
  | .brokenText fault left => .error (.misplaced (.text fault) left)
  | .oversized digits => .error (.oversized digits)
  | _ => .error (.misplaced .value here.length)

def takeKey (stack : List Frame) (done : List (Text × Json)) (t : Token) (here : List Char) :
    Except Fault ReaderState :=
  match t with
  | .text key => .ok ⟨stack, .colon done key⟩
  | .brokenText fault left => .error (.misplaced (.text fault) left)
  | _ => .error (.misplaced .property here.length)

namespace ReaderState

/-- Takes a token, `here` being the document from the token on. -/
def take (s : ReaderState) (t : Token) (here : List Char) : Except Fault ReaderState :=
  match s.expects with
  | .value => beginValue s.stack t here
  | .firstItem =>
    match t with
    | .closeBracket => .ok (deliver s.stack (.array []))
    | t => beginValue (.array [] :: s.stack) t here
  | .firstKey =>
    match t with
    | .closeBrace => closeObject s.stack []
    | t => takeKey s.stack [] t here
  | .key done => takeKey s.stack done t here
  | .colon done key =>
    match t with
    | .colon => .ok ⟨.object done key :: s.stack, .value⟩
    | _ => .error (.misplaced .colon here.length)
  | .itemEnd done =>
    match t with
    | .comma => .ok ⟨.array done :: s.stack, .value⟩
    | .closeBracket => .ok (deliver s.stack (.array done.reverse))
    | _ => .error (.misplaced .comma here.length)
  | .memberEnd done =>
    match t with
    | .comma => .ok ⟨s.stack, .key done⟩
    | .closeBrace => closeObject s.stack done
    | _ => .error (.misplaced .comma here.length)
  | .documentEnd _ => .error (.misplaced .nothingMore here.length)

/-- What the end of the document means. -/
def finish (s : ReaderState) : Except Fault Json :=
  match s.expects with
  | .documentEnd result => .ok result
  | .value | .firstItem => .error (.misplaced .value 0)
  | .firstKey | .key _ => .error (.misplaced .property 0)
  | .colon _ _ => .error (.misplaced .colon 0)
  | .itemEnd _ | .memberEnd _ => .error (.misplaced .comma 0)

/-- Takes the remaining tokens. -/
def run (s : ReaderState) : List Lexeme → Except Fault Json
  | [] => s.finish
  | l :: ls =>
    match s.take l.token l.document with
    | .ok next => next.run ls
    | .error fault => .error fault

end ReaderState

def read (document : List Char) : Except Fault Json :=
  match document with
  | '\uFEFF' :: _ => .error .byteOrderMark
  | _ => ReaderState.run ⟨[], .value⟩ (lexemes document)

end Phrasebook.Json
