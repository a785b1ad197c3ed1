import Phrasebook.Toml.Scalar

/-!
Reading a TOML document: keys, bracketed values and the statements, one to a line. Values nest, but
not without end: arrays and inline tables have a weight, and the open ones together may not weigh
too much. The readers carry a bound on the steps that remain; every second step at least takes a
character, and twice the length of the document is bound enough.
-/

namespace Phrasebook.Toml

/-! ### Keys -/

def isBareKeyChar (c : Char) : Bool :=
  c.isAlphanum || c == '-' || c == '_'

/-- Reads one part of a key: bare, or a text of one line. -/
def readKeyPart (cs : List Char) : Except Fault (Text × List Char) :=
  match cs with
  | [] => fail .keyPart []
  | c :: rest =>
    if isBareKeyChar c then
      .ok (Text.ofChars (cs.takeWhile isBareKeyChar), cs.dropWhile isBareKeyChar)
    else if c = '"' ∨ c = '\'' then readLineText c rest
    else fail .keyPart cs

/-- Reads the parts of a key behind those of `done`, which are given from the latest on. -/
def readKeyAfter : (steps : Nat) → (done : List Text) → List Char → Except Fault (Key × List Char)
  | 0, _, cs => fail .keyPart cs
  | steps + 1, done, cs => do
    let (part, rest) ← readKeyPart cs
    match skipBlanks rest with
    | '.' :: more => readKeyAfter steps (part :: done) (skipBlanks more)
    | more => return ((part :: done).reverse, more)

/-- Reads a key and the blanks behind it. -/
def readKey (steps : Nat) (cs : List Char) : Except Fault (Key × List Char) :=
  readKeyAfter steps [] cs

/-- Reads a key and the equals sign behind it. -/
def readAssigned (steps : Nat) (cs : List Char) : Except Fault (Key × List Char) := do
  let (key, rest) ← readKey steps cs
  match rest with
  | '=' :: more => return (key, skipBlanks more)
  | _ => fail .equals rest

/-- The parts of a key before the last, and the last. -/
def Key.split (key : Key) : Key × Text :=
  (key.dropLast, key.getLastD [])

/-! ### Values -/

/-- Skips blanks, newlines and comments inside an array. -/
def skipArrayBlanks (inComment : Bool) : List Char → Except Fault (List Char)
  | [] => .ok []
  | c :: cs =>
    if c = '\n' then skipArrayBlanks false cs
    else if inComment then
      if isControl c then fail (.found (.ofChar c)) (c :: cs) else skipArrayBlanks true cs
    else if c = '#' then skipArrayBlanks true cs
    else if isBlank c then skipArrayBlanks false cs
    else .ok (c :: cs)

def Value.isBracketed : Value → Bool
  | .array _ | .table _ => true
  | _ => false

/-- Puts a value into an inline table. Keys that hold a bracketed value are closed. -/
def putInline (closed : List Key) (key : Key) (v : Value) (t : Entries) :
    Except Complaint Entries :=
  let (parent, last) := key.split
  if closed.any fun k => k.isPrefixOf key then .error (.immutable key)
  else
    t.change
      (fun inner =>
        if inner.any (·.1 == last) then .error (.repeatedInlineKey last)
        else .ok (inner ++ [(last, v)]))
      parent

/-- The open arrays and inline tables may weigh this much. The weight is counted in open calls: 1000
may be open at once, and so many are left by a caller that has few open itself. -/
def maxWeight : Nat := 970

def arrayWeight : Nat := 2

def inlineTableWeight : Nat := 3

mutual

/-- Reads a value; `room` is the weight that may still be opened. -/
def readValue : (steps room : Nat) → List Char → Except Fault (Value × List Char)
  | 0, _, cs => fail .value cs
  | steps + 1, room, cs =>
    match cs with
    | [] => fail .value []
    | c :: rest =>
      if c = '"' ∨ c = '\'' then do
        let (t, more) ← readText c rest
        return (.text t, more)
      else if ['t', 'r', 'u', 'e'].isPrefixOf cs then .ok (.boolean true, cs.drop 4)
      else if ['f', 'a', 'l', 's', 'e'].isPrefixOf cs then .ok (.boolean false, cs.drop 5)
      else if c = '[' then do
        if room < arrayWeight then throw .tooDeep
        let rest ← skipArrayBlanks false rest
        readItems steps (room - arrayWeight) [] rest
      else if c = '{' then
        if room < inlineTableWeight then .error .tooDeep
        else match skipBlanks rest with
          | '}' :: more => .ok (.table [], more)
          | more => readMembers steps (room - inlineTableWeight) [] [] more
      else readUnquoted cs

/-- Reads the items of an array behind those of `done`, which are given from the latest on. -/
def readItems : (steps room : Nat) → (done : List Value) → List Char →
    Except Fault (Value × List Char)
  | 0, _, _, cs => fail .arrayEnd cs
  | steps + 1, room, done, cs =>
    match cs with
    | ']' :: rest => .ok (.array done.reverse, rest)
    | cs => do
      let (v, rest) ← readValue steps room cs
      let rest ← skipArrayBlanks false rest
      match rest with
      | ']' :: more => return (.array (v :: done).reverse, more)
      | ',' :: more => do
        let more ← skipArrayBlanks false more
        readItems steps room (v :: done) more
      | rest => fail .arrayEnd rest

/-- Reads the members of an inline table behind those of `t`; the keys of `closed` hold bracketed
values. -/
def readMembers : (steps room : Nat) → (closed : List Key) → (t : Entries) → List Char →
    Except Fault (Value × List Char)
  | 0, _, _, _, cs => fail .inlineTableEnd cs
  | steps + 1, room, closed, t, cs => do
    let (key, rest) ← readAssigned steps cs
    let (v, rest) ← readValue steps room rest
    match putInline closed key v t with
    | .error complaint => fail complaint rest
    | .ok t =>
      match skipBlanks rest with
      | '}' :: more => return (.table t, more)
      | ',' :: more =>
        let closed := if v.isBracketed then key :: closed else closed
        readMembers steps room closed t (skipBlanks more)
      | rest => fail .inlineTableEnd rest

end

/-! ### Statements -/

/-- What the statements read so far have made: the document's table, what is declared, and the key
of the current header. -/
structure Progress where
  table : Entries
  declared : Declared
  header : Key

/-- Starts the table of a header. -/
def Progress.openTable (p : Progress) (key : Key) : Except Complaint Progress := do
  let declared := p.declared.settle
  if declared.isTable key || declared.isClosed key then
    throw (.declaredTwice key)
  let table ← p.table.change (fun inner => .ok inner) key
  return ⟨table, declared.declareTable key, key⟩

/-- Starts another table of the array that a header names. -/
def Progress.openArrayTable (p : Progress) (key : Key) : Except Complaint Progress := do
  let declared := p.declared.settle
  if declared.isClosed key then
    throw (.immutable key)
  let (parent, last) := key.split
  let table ← p.table.change (Entries.addTable last) parent
  return ⟨table, (declared.forget key).declareTable key, key⟩

/-- The tables that a dotted key passes through, under the header. -/
def passedKeys (header key : Key) : List Key :=
  (List.range (key.length - 1)).map fun i => header ++ key.take (i + 1)

def Progress.assign (p : Progress) (key : Key) (v : Value) : Except Complaint Progress := do
  let passed := passedKeys p.header key
  match passed.find? p.declared.isTable with
  | some found => throw (.redefined found)
  | none => pure ()
  let (parent, last) := key.split
  let parent := p.header ++ parent
  if p.declared.isClosed parent then
    throw (.immutable parent)
  let table ← p.table.change (Entries.add last v) parent
  let declared := passed.foldl Declared.defer p.declared
  return { p with
    table
    declared := if v.isBracketed then declared.close (p.header ++ key) else declared }

def complainAt {α : Type} (here : List Char) : Except Complaint α → Except Fault α
  | .ok a => .ok a
  | .error complaint => fail complaint here

/-- Reads a statement: a header, a table of an array, or a key with its value. -/
def readStatement (steps : Nat) (p : Progress) (cs : List Char) :
    Except Fault (Progress × List Char) :=
  match cs with
  | '[' :: '[' :: rest => do
    let (key, rest) ← readKey steps (skipBlanks rest)
    let p ← complainAt rest (p.openArrayTable key)
    match rest with
    | ']' :: ']' :: more => return (p, more)
    | _ => fail .tableArrayEnd rest
  | '[' :: rest => do
    let (key, rest) ← readKey steps (skipBlanks rest)
    let p ← complainAt rest (p.openTable key)
    match rest with
    | ']' :: more => return (p, more)
    | _ => fail .tableEnd rest
  | '#' :: _ => .ok (p, cs)
  | c :: _ =>
    if isBareKeyChar c || c == '"' || c == '\'' then do
      let (key, rest) ← readAssigned steps cs
      let (v, rest) ← readValue steps maxWeight rest
      let p ← complainAt rest (p.assign key v)
      return (p, rest)
    else fail .statement cs
  | [] => .ok (p, [])

/-- Reads the remaining statements. -/
def readStatements : (steps : Nat) → Progress → List Char → Except Fault Entries
  | 0, p, _ => .ok p.table
  | steps + 1, p, cs =>
    match skipBlanks cs with
    | [] => .ok p.table
    | '\n' :: rest => readStatements steps p rest
    | c :: rest => do
      let (p, rest) ← readStatement steps p (c :: rest)
      let rest ← skipComment (skipBlanks rest)
      match rest with
      | [] => return p.table
      | '\n' :: more => readStatements steps p more
      | rest => fail .lineEnd rest

/-- The document with every line ending as a newline. -/
def unifyNewlines (done : List Char) : List Char → List Char
  | [] => done.reverse
  | '\r' :: '\n' :: cs => unifyNewlines ('\n' :: done) cs
  | '\r' :: cs => unifyNewlines ('\n' :: done) cs
  | c :: cs => unifyNewlines (c :: done) cs

/-- The table that a document holds; its line endings are newlines. -/
def read (document : List Char) : Except Fault Entries :=
  readStatements (2 * document.length + 4) ⟨[], .empty, []⟩ document

end Phrasebook.Toml
