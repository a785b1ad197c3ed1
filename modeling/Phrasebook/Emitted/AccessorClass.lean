import Phrasebook.ClassPrefix
import Phrasebook.Emitted.Skeleton
import Phrasebook.Locale.Groups
import Phrasebook.Locale.Reference
import Phrasebook.Phrases

/-!
Accessor classes: one class for each locale, with one member for each key of its file. The class of
a language's default extends the abstract base, and the class of a region extends that of its
language, from which it has the members that it does not define.
-/

namespace Phrasebook

structure AccessorClass where
  name : Text
  parent : Text
  locale : Locale
  members : Phrases
deriving DecidableEq

namespace AccessorClass

/-- The class of a file's locale: its members are the entries of the file. -/
def ofSet (p : ClassPrefix) (s : PhraseSet) : AccessorClass where
  name := p.classOf s.locale
  parent :=
    if s.locale.isDefault then p.base else p.classOf (.default s.locale.language)
  locale := s.locale
  members := s.entries

/-- The class with a name; of several, the last. -/
def named (classes : List AccessorClass) (name : Text) : Option AccessorClass :=
  classes.reverse.find? fun c => c.name == name

/-- The text of a key in a class, or in the ancestors at most `hops - 1` steps above it. -/
def resolveWithin (classes : List AccessorClass) (key : Text) :
    (hops : Nat) → Option AccessorClass → Option Text
  | 0, _ => none
  | _, none => none
  | hops + 1, some c =>
    match c.members.lookup key with
    | some t => some t
    | none => resolveWithin classes key hops (named classes c.parent)

/-- The text of a key in the class with a name: its own, or that of its parent. -/
def resolve (classes : List AccessorClass) (name key : Text) : Option Text :=
  resolveWithin classes key 2 (named classes name)

end AccessorClass

/-- The classes of one language, its default's first. -/
abbrev Bundle := Text × List AccessorClass

namespace Bundle

/-- The file of a locale. -/
def setOf (sets : List PhraseSet) (l : Locale) : Except Trouble PhraseSet :=
  match sets.find? fun s => s.locale == l with
  | some s => .ok s
  | none => .error (.absent l.canonical)

def classesOf (p : ClassPrefix) (sets : List PhraseSet) :
    List Locale → Traced Trouble (List AccessorClass)
  | [] => pure []
  | l :: ls => do
    let s ← Traced.ofExcept (setOf sets l)
    Traced.note (.generated l)
    let rest ← classesOf p sets ls
    return AccessorClass.ofSet p s :: rest

def ofGroups (p : ClassPrefix) (sets : List PhraseSet) :
    List LanguageGroup → Traced Trouble (List Bundle)
  | [] => pure []
  | g :: gs => do
    let classes ← classesOf p sets g.locales
    let rest ← ofGroups p sets gs
    return (g.language, classes) :: rest

def classes (bundles : List Bundle) : List AccessorClass :=
  bundles.flatMap (·.2)

end Bundle

/-! ### Source -/

inductive MemberSlot where
  | key
  | literal
deriving DecidableEq

instance : Slot MemberSlot where
  label
    | .key => "key"
    | .literal => "literal"
  label_injective s s' := by cases s <;> cases s' <;> decide

/-- The source of a member: a property that returns a literal. -/
def memberSkeleton : Skeleton MemberSlot :=
  [.fixed "\n    @property\n    def ", .slot .key,
    .fixed "(self) -> str:\n        return ", .slot .literal, .fixed "\n"]

def memberSource (key value : Text) : Text :=
  memberSkeleton.fill fun
    | .key => key
    | .literal => value.quoted

inductive AbstractMemberSlot where
  | key
deriving DecidableEq

instance : Slot AbstractMemberSlot where
  label
    | .key => "key"
  label_injective s s' _ := by cases s; cases s'; rfl

/-- The source of a member of the abstract base, which has no text. -/
def abstractMemberSkeleton : Skeleton AbstractMemberSlot :=
  [.fixed "\n    @property\n    @abstractmethod\n    def ", .slot .key,
    .fixed "(self) -> str:\n        \"\"\"Translation for ``", .slot .key, .fixed "``.\"\"\"\n"]

def abstractMembersSource (keys : List Text) : Text :=
  keys.flatMap fun key => abstractMemberSkeleton.fill fun
    | .key => key

inductive ClassSlot where
  | name
  | parent
  | docstring
  | parameters
  | arguments
  | members
deriving DecidableEq

instance : Slot ClassSlot where
  label
    | .name => "name"
    | .parent => "parent"
    | .docstring => "docstring"
    | .parameters => "parameters"
    | .arguments => "arguments"
    | .members => "members"
  label_injective s s' := by cases s <;> cases s' <;> decide

def classSkeleton : Skeleton ClassSlot :=
  [.fixed "class ", .slot .name, .fixed "(", .slot .parent, .fixed "):\n    \"\"\"",
    .slot .docstring, .fixed "\"\"\"\n\n    def __init__(self", .slot .parameters,
    .fixed ") -> None:\n        super().__init__(", .slot .arguments, .fixed ")\n",
    .slot .members]

namespace AccessorClass

def description (c : AccessorClass) (r : Reference) : Text :=
  "The translation for " ++ r.inWords c.locale ++ " (``" ++ c.locale.canonical ++ "``)."

def membersSource (c : AccessorClass) : Text :=
  c.members.flatMap fun member => memberSource member.1 member.2

/-- The source of a class. The constructor of a language's default takes the name of a locale, by
default its own; that of a region passes on its own. -/
def source (c : AccessorClass) (r : Reference) : Text :=
  classSkeleton.fill fun
    | .name => c.name
    | .parent => c.parent
    | .docstring => c.description r
    | .parameters =>
      if c.locale.isDefault then ", locale_name: str = " ++ c.locale.language.quoted else []
    | .arguments =>
      if c.locale.isDefault then "locale_name" else c.locale.canonical.quoted
    | .members => c.membersSource

end AccessorClass

end Phrasebook
