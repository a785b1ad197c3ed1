import Phrasebook.Event
import Phrasebook.Identifier
import Phrasebook.Phrases

/-!
The schema: the keys of the template, each of which can name an accessor. Every file may only use
these keys, and the file of a language alone must have them all, because regions fall back to it.
-/

namespace Phrasebook

/-- The keys that the template declares, in its order. -/
structure Schema where
  locale : Locale
  path : Path
  keys : List Text
deriving DecidableEq

namespace Schema

/-- The schema of a template; its first key that cannot name an accessor is refused. -/
def ofTemplate (t : PhraseSet) : Except Failure Schema :=
  match t.keys.find? fun k => !Identifier.isAccessor k with
  | some key => .error (.invalidKey key t.path.toText)
  | none => .ok ⟨t.locale, t.path, t.keys⟩

/-- Checks that a file uses keys of the schema only. -/
def checkKnown (s : Schema) (t : PhraseSet) : Except Failure Unit :=
  match t.keys.find? fun k => !s.keys.contains k with
  | some key => .error (.unknownKey key t.path.toText)
  | none => .ok ()

/-- Checks that a file has every key of the schema. -/
def checkComplete (s : Schema) (t : PhraseSet) : Except Failure Unit :=
  match s.keys.find? fun k => !t.keys.contains k with
  | some key => .error (.missingKey key t.path.toText)
  | none => .ok ()

/-- Checks what is asked of a file: coverage only where its locale is a language's default. -/
def check (s : Schema) (t : PhraseSet) : Except Failure Unit := do
  s.checkKnown t
  if t.locale.isDefault then s.checkComplete t

/-- Checks files in order. -/
def checkAll (s : Schema) : List PhraseSet → Traced Trouble Unit
  | [] => pure ()
  | t :: ts =>
    match s.check t with
    | .error f => throw (.failure f)
    | .ok () => do
      Traced.note (.consistent t.locale s.locale)
      checkAll s ts

end Schema

end Phrasebook
