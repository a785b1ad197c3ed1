import Phrasebook.Locale.Display
import Phrasebook.Phrases

/-!
Display data as a JSON document: an object with one member for each display locale, which holds the
names of languages and of territories by code.
-/

namespace Phrasebook.DisplayData

/-- The names under a label. A label that is missing names nothing. -/
def namesUnder (label : Text) (members : List (Text × Json)) : Except Text (List (Text × Text)) :=
  match members.lookup label with
  | none => .ok []
  | some v => Phrases.ofJson v

/-- The names for one display locale. -/
def entryOfJson : Json → Except Text DisplayEntry
  | .object members => do
    let languages ← namesUnder "languages" members
    let regions ← namesUnder "territories" members
    return .names languages regions
  | v => .error ("expected a JSON object, got " ++ v.typeName)

def ofJson : Json → Except Text DisplayData
  | .object members =>
    members.mapM fun m => (entryOfJson m.2).map fun entry => (m.1, entry)
  | v => .error ("expected a JSON object, got " ++ v.typeName)

def ofBytes (bytes : Bytes) : Except Text DisplayData :=
  match Utf8.decode bytes with
  | .error e => .error e.message
  | .ok document =>
    match Json.read document with
    | .error fault => .error (fault.message document)
    | .ok v => ofJson v

end Phrasebook.DisplayData
