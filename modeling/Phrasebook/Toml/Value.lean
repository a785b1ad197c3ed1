import Phrasebook.Text.Quoted

/-!
TOML values and the tables of a document. Tables keep the order in which their keys appear. Numbers,
dates and times are kept by kind only: no setting is one.
-/

namespace Phrasebook.Toml

/-- A key, given by its dotted parts. -/
abbrev Key := List Text

inductive Value where
  | text (t : Text)
  | boolean (b : Bool)
  | integer
  | real
  | moment
  | array (items : List Value)
  | table (entries : List (Text × Value))
  /-- The tables that headers with one key start: the latest, and those before it from there on. -/
  | tables (latest : List (Text × Value)) (earlier : List (List (Text × Value)))

instance : Inhabited Value := ⟨.boolean false⟩

/-- The keys and values of one table. -/
abbrev Entries := List (Text × Value)

/-- What is wrong in a document. -/
inductive Complaint where
  | statement
  | lineEnd
  | declaredTwice (key : Key)
  | immutable (key : Key)
  | redefined (key : Key)
  | overwritten
  | tableEnd
  | tableArrayEnd
  | equals
  | keyPart
  | arrayEnd
  | inlineTableEnd
  | repeatedInlineKey (key : Text)
  | backslash
  | hexadecimal
  | scalar
  | missing (ending : Text)
  | found (c : CodePoint)
  | illegal (c : CodePoint)
  | unterminated
  | date
  | value
deriving DecidableEq

/-- The parts of a key as a tuple of literals. -/
def shownKey (key : Key) : Text :=
  Text.tuple (key.map Text.quoted)

def Complaint.phrase : Complaint → Text
  | .statement => "Invalid statement"
  | .lineEnd => "Expected newline or end of document after a statement"
  | .declaredTwice key => "Cannot declare " ++ shownKey key ++ " twice"
  | .immutable key => "Cannot mutate immutable namespace " ++ shownKey key
  | .redefined key => "Cannot redefine namespace " ++ shownKey key
  | .overwritten => "Cannot overwrite a value"
  | .tableEnd => "Expected ']' at the end of a table declaration"
  | .tableArrayEnd => "Expected ']]' at the end of an array declaration"
  | .equals => "Expected '=' after a key in a key/value pair"
  | .keyPart => "Invalid initial character for a key part"
  | .arrayEnd => "Unclosed array"
  | .inlineTableEnd => "Unclosed inline table"
  | .repeatedInlineKey key => "Duplicate inline table key " ++ key.quoted
  | .backslash => "Unescaped '\\' in a string"
  | .hexadecimal => "Invalid hex value"
  | .scalar => "Escaped character is not a Unicode scalar value"
  | .missing ending => "Expected " ++ ending.quoted
  | .found c => "Found invalid character " ++ Text.quoted [c]
  | .illegal c => "Illegal character " ++ Text.quoted [c]
  | .unterminated => "Unterminated string"
  | .date => "Invalid date or datetime"
  | .value => "Invalid value"

/-- Puts a value under a key that the table may have already. -/
def Entries.put (t : Entries) (k : Text) (v : Value) : Entries :=
  if t.any (·.1 == k) then t.map fun e => if e.1 == k then (k, v) else e else t ++ [(k, v)]

/-- Changes the table that a key leads to, making the tables on the way that are missing. Of the
tables that headers start under one key, the latest is changed. -/
def Entries.change (f : Entries → Except Complaint Entries) :
    Key → Entries → Except Complaint Entries
  | [], t => f t
  | k :: ks, t =>
    match t.lookup k with
    | none => do
      let inner ← change f ks []
      return t.put k (.table inner)
    | some (.table inner) => do
      let inner ← change f ks inner
      return t.put k (.table inner)
    | some (.tables latest earlier) => do
      let latest ← change f ks latest
      return t.put k (.tables latest earlier)
    | some _ => .error .overwritten

/-- Adds a value under a new key. -/
def Entries.add (k : Text) (v : Value) (t : Entries) : Except Complaint Entries :=
  if t.any (·.1 == k) then .error .overwritten else .ok (t ++ [(k, v)])

/-- Starts another table under a key. -/
def Entries.addTable (k : Text) (t : Entries) : Except Complaint Entries :=
  match t.lookup k with
  | none => .ok (t ++ [(k, .tables [] [])])
  | some (.tables latest earlier) => .ok (t.put k (.tables [] (latest :: earlier)))
  | some _ => .error .overwritten

/-! ### Which keys are closed -/

/-- What has been declared of keys: `tables` are declared as tables, `closed` hold a value in
brackets, and `pending` become declared tables where the next header begins. -/
structure Declared where
  tables : List Key
  closed : List Key
  pending : List Key

namespace Declared

def empty : Declared := ⟨[], [], []⟩

def isTable (d : Declared) (key : Key) : Bool :=
  key != [] && d.tables.contains key

/-- Whether the key, or one that it begins with, holds a value in brackets. -/
def isClosed (d : Declared) (key : Key) : Bool :=
  d.closed.any fun k => k != [] && k.isPrefixOf key

def declareTable (d : Declared) (key : Key) : Declared :=
  { d with tables := key :: d.tables }

def close (d : Declared) (key : Key) : Declared :=
  { d with closed := key :: d.closed }

def defer (d : Declared) (key : Key) : Declared :=
  { d with pending := key :: d.pending }

def settle (d : Declared) : Declared :=
  { d with tables := d.pending ++ d.tables, pending := [] }

/-- Forgets a key and all that begin with it. -/
def forget (d : Declared) (key : Key) : Declared :=
  { d with
    tables := d.tables.filter fun k => !key.isPrefixOf k
    closed := d.closed.filter fun k => !key.isPrefixOf k }

end Declared

end Phrasebook.Toml
