import Mathlib
import Phrasebook.Failure
import Phrasebook.Proofs.CommandLine
import Phrasebook.Proofs.Text.Cut

/-! Diagnostics on a single line. What a message repeats of keys, paths and reasons can end lines by
more marks than the line feed, and only that one is replaced. -/

namespace Phrasebook

namespace Text

variable {x y t : Text} {parts : List Text}

/-- The marks that end a line of a text. -/
def lineEnds : List CodePoint :=
  [0x0A, 0x0B, 0x0C, 0x0D, 0x1C, 0x1D, 0x1E, 0x85, 0x2028, 0x2029].map CodePoint.ofNat

/-- A text within a line. -/
def IsUnbroken (t : Text) : Prop :=
  ∀ c ∈ t, c ∉ lineEnds

instance (t : Text) : Decidable t.IsUnbroken :=
  inferInstanceAs (Decidable (∀ c ∈ t, c ∉ lineEnds))

/-- A text in which only line feeds end lines. -/
def IsFed (t : Text) : Prop :=
  ∀ c ∈ t, c ∈ lineEnds → c = ('\n' : CodePoint)

instance (t : Text) : Decidable t.IsFed :=
  inferInstanceAs (Decidable (∀ c ∈ t, c ∈ lineEnds → c = ('\n' : CodePoint)))

theorem isUnbroken_append : (x ++ y).IsUnbroken ↔ x.IsUnbroken ∧ y.IsUnbroken :=
  List.forall_mem_append

@[simp] theorem isFed_append : (x ++ y).IsFed ↔ x.IsFed ∧ y.IsFed :=
  List.forall_mem_append

theorem isFed_joined (hx : x.IsFed) : (joined x parts).IsFed ↔ ∀ part ∈ parts, part.IsFed := by
  constructor
  · intro h
    induction parts with
    | nil => simp
    | cons first parts ih =>
      cases parts with
      | nil => simpa [joined] using h
      | cons second parts =>
        rw [joined_cons (List.cons_ne_nil _ _), isFed_append, isFed_append] at h
        exact List.forall_mem_cons.mpr ⟨h.1.1, ih h.2⟩
  · exact forall_mem_joined hx

end Text

namespace Diagnostic

/-- A line feed becomes a space, and every other mark stays as it is. -/
theorem isUnbroken_unbroken {t : Text} : (unbroken t).IsUnbroken ↔ t.IsFed := by
  have hspace : (' ' : CodePoint) ∉ Text.lineEnds := by decide
  unfold unbroken Text.IsUnbroken Text.IsFed
  rw [List.forall_mem_map]
  refine forall₂_congr fun c _ => ?_
  by_cases hc : c = ('\n' : CodePoint)
  · simp [hc, hspace]
  · simp [hc]

theorem isUnbroken_code (c : Code) : (c.label).IsUnbroken ∧ (bold red c.label).IsUnbroken := by
  cases c <;> decide +kernel

theorem isUnbroken_line (d : Diagnostic) (colour : Bool) :
    (d.line colour).IsUnbroken ↔ d.message.IsFed := by
  have hcode : (if colour then bold red d.code.label else d.code.label).IsUnbroken := by
    cases colour
    · exact (isUnbroken_code d.code).1
    · exact (isUnbroken_code d.code).2
  have hcolon : Text.IsUnbroken ": " := by decide
  rw [line, Text.isUnbroken_append, Text.isUnbroken_append, isUnbroken_unbroken]
  simp [hcode, hcolon]

end Diagnostic

namespace Failure

/-- The texts that the message of a failure repeats, in order. -/
def repeated : Failure → List Text
  | .unknownLanguage language code => [language, code]
  | .unknownRegion region code => [region, code]
  | .extraSubtags code => [code]
  | .duplicateLocale locale first second => [locale, second, first]
  | .missingTemplate path => [path]
  | .missingFallback language regions _ => language :: regions
  | .unknownKey key path => [key, path]
  | .missingKey key path => [key, path]
  | .invalidKey key path => [key, path]
  | .invalidFile path reason => [path, reason]
  | .missingInputDirectory path => [path]
  | .missingFile path => [path]
  | .unwritable path reason => [path, reason]
  | .invalidSettings reason _ => [reason]
  | .unsupportedLocale code => [code]

/-- Apart from what a message repeats, it is a line. -/
theorem isFed_message (f : Failure) : f.diagnostic.message.IsFed ↔ ∀ t ∈ f.repeated, t.IsFed := by
  have hjoined (parts : List Text) :
      (Text.joined ", " parts).IsFed ↔ ∀ part ∈ parts, part.IsFed :=
    Text.isFed_joined (by decide)
  -- The words around the repeated texts are fixed, so they are decided.
  cases f <;> simp +decide only [diagnostic, repeated, Text.isFed_append, hjoined,
    List.forall_mem_cons, and_true, true_and, and_assoc]

theorem isUnbroken_line (f : Failure) (colour : Bool) :
    (f.diagnostic.line colour).IsUnbroken ↔ ∀ t ∈ f.repeated, t.IsFed := by
  rw [Diagnostic.isUnbroken_line, isFed_message]

end Failure

/-- The single-line form of a diagnostic is one line exactly if its message has no line end but line
feeds. That of a failure is one line exactly if so does every text that its message repeats, and it
is what a run that fails prints behind the events. -/
theorem single_line_iff (d : Diagnostic) (f : Failure) (colour : Bool) :
    ((d.line colour).IsUnbroken ↔ d.message.IsFed) ∧
    ((f.diagnostic.line colour).IsUnbroken ↔ ∀ t ∈ f.repeated, t.IsFed) ∧
    ∀ (env : CommandLine.Environment) (arguments : List Text) (disk : Disk)
      (choices : CommandLine.Choices),
      CommandLine.parse arguments = .ok choices → choices.format = some .line →
      (CommandLine.perform env choices disk).2.outcome = .error (.failure f) →
      (CommandLine.run env arguments disk).2 = .ok ⟨1, [],
        CommandLine.eventLines choices.verbose (CommandLine.perform env choices disk).2.events ++
          f.diagnostic.line env.isTerminal ++ "\n"⟩ := by
  refine ⟨d.isUnbroken_line colour, f.isUnbroken_line colour, ?_⟩
  intro env arguments disk choices hparse hformat hfails
  rw [CommandLine.run_of_failure hparse hformat hfails]
  rfl

theorem single_line_iff_absentSettings :
    CommandLine.parse ["--config", "absent.toml"] =
      .ok { config := some (some (Text.ofString "absent.toml")) } ∧
    (CommandLine.run ⟨true, [], []⟩ ["--config", "absent.toml"] ⟨.directory [], []⟩).2 =
      .ok ⟨1, [], (Failure.invalidSettings "file not found" (some "absent.toml")).diagnostic.line
        true ++ "\n"⟩ ∧
    ((Failure.invalidSettings "file not found" (some "absent.toml")).diagnostic.line
      true).IsUnbroken := by
  have hparse : CommandLine.parse ["--config", "absent.toml"] =
      .ok { config := some (some (Text.ofString "absent.toml")) } := by
    decide +kernel
  obtain ⟨_, hline, hrun⟩ := single_line_iff
    (Failure.invalidSettings "file not found" (some "absent.toml")).diagnostic
    (.invalidSettings "file not found" (some "absent.toml")) true
  exact ⟨hparse, hrun ⟨true, [], []⟩ _ ⟨.directory [], []⟩ _ hparse rfl rfl,
    hline.mpr (by decide)⟩

/-- A key with a carriage return is repeated as it is. -/
theorem not_single_line_returned :
    ¬((Failure.unknownKey "title\rtext" "locale-input/fr.json").diagnostic.line
      false).IsUnbroken := by
  decide

end Phrasebook
