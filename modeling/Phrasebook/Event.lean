import Phrasebook.Locale
import Phrasebook.Path
import Phrasebook.Text.Quoted

/-!
The events of a run, in the order in which they happen. A traced outcome is an outcome with the
events that led to it; the events never influence the outcome.
-/

namespace Phrasebook

/-- Something that happens during a run. -/
inductive Event where
  | noSettingsFile (path : Path)
  | noSettingsTable (path : Path)
  | discovered (path : Path) (l : Locale)
  | grouped (language : Text) (regions : List (Option Text))
  | loaded (keys : Nat) (l : Locale)
  | consistent (l template : Locale)
  | generated (l : Locale)
  | wrote (path : Path)
  | validatedAll (locales : Nat)
  | generatedAll (locales : Nat) (outputDir : Path)
deriving DecidableEq

namespace Event

/-- The table of the settings file that holds the settings. -/
def settingsTable : Text := "typedloc"

/-- Whether an event is only reported on request. -/
def isDetail : Event → Bool
  | .noSettingsFile _ | .noSettingsTable _ | .discovered _ _ | .grouped _ _ | .loaded _ _
  | .consistent _ _ => true
  | .generated _ | .wrote _ | .validatedAll _ | .generatedAll _ _ => false

def message : Event → Text
  | .noSettingsFile path => "No " ++ path.toText ++ " found, using default configuration"
  | .noSettingsTable path =>
    "No [tool." ++ settingsTable ++ "] table in " ++ path.toText ++ ", using defaults"
  | .discovered path l => "Discovered " ++ path.toText ++ " as locale " ++ l.canonical
  | .grouped language regions =>
    "Grouped " ++ language ++ ": " ++ Text.tuple (regions.map Text.quotedOrNone)
  | .loaded keys l => "Loaded " ++ Text.ofNat keys ++ " keys for " ++ l.canonical
  | .consistent l template =>
    "Keys of " ++ l.canonical ++ " consistent with template " ++ template.canonical
  | .generated l => "Generated " ++ l.canonical
  | .wrote path => "Wrote " ++ path.toText
  | .validatedAll locales => "Validated " ++ Text.ofNat locales ++ " locale(s)"
  | .generatedAll locales outputDir =>
    "Generated " ++ Text.ofNat locales ++ " locale(s) into " ++ outputDir.toText

end Event

/-- An outcome with the events before it. -/
structure Traced (ε α : Type) where
  events : List Event
  outcome : Except ε α

namespace Traced

variable {ε α β : Type}

def ofExcept (outcome : Except ε α) : Traced ε α :=
  ⟨[], outcome⟩

def note (e : Event) : Traced ε Unit :=
  ⟨[e], .ok ()⟩

def bind (x : Traced ε α) (f : α → Traced ε β) : Traced ε β :=
  match x.outcome with
  | .ok a => ⟨x.events ++ (f a).events, (f a).outcome⟩
  | .error e => ⟨x.events, .error e⟩

instance : Monad (Traced ε) where
  pure a := ⟨[], .ok a⟩
  bind := bind

instance : MonadExcept ε (Traced ε) where
  throw e := ⟨[], .error e⟩
  tryCatch x handle :=
    match x.outcome with
    | .ok a => ⟨x.events, .ok a⟩
    | .error e => ⟨x.events ++ (handle e).events, (handle e).outcome⟩

@[simp] theorem outcome_pure (a : α) : (pure a : Traced ε α).outcome = .ok a := rfl

@[simp] theorem outcome_note (e : Event) : (note e : Traced ε Unit).outcome = .ok () := rfl

@[simp] theorem outcome_ofExcept (x : Except ε α) : (ofExcept x).outcome = x := rfl

@[simp] theorem outcome_throw (e : ε) : (throw e : Traced ε α).outcome = .error e := rfl

/-- The outcome of a sequence is the sequence of the outcomes. -/
@[simp] theorem outcome_bind (x : Traced ε α) (f : α → Traced ε β) :
    (x >>= f).outcome = x.outcome >>= fun a => (f a).outcome := by
  show (bind x f).outcome = _
  unfold bind
  cases x.outcome <;> rfl

end Traced

end Phrasebook
