import Mathlib
import Phrasebook.Proofs.Disk.Lengths
import Phrasebook.Proofs.Outcome
import Phrasebook.Settings

/-! Settings that are given by entries: which entries are accepted, what settings they make in
whatever order, and what is said of those that are refused. -/

namespace Phrasebook.Settings

variable {source : Option Text} {entries entries' : List (Text × Given)} {d : Draft} {n m : Name}
  {s : Settings} {t : Text}

/-! ### Labels and drafts -/

theorem Name.ofLabel?_label (n : Name) : Name.ofLabel? n.label = some n := by
  cases n <;> decide

theorem Name.label_injective : Function.Injective Name.label := by
  intro n m h
  exact Option.some.inj (by rw [← ofLabel?_label n, h, ofLabel?_label m])

theorem ofLabel?_eq_some : Name.ofLabel? t = some n ↔ n.label = t :=
  find?_label_eq_some n.ofLabel?_label

theorem ofLabel?_eq_none : Name.ofLabel? t = none ↔ ∀ n : Name, t ≠ n.label := by
  rw [Option.eq_none_iff_forall_ne_some]
  exact forall_congr' fun n => by rw [Ne, ofLabel?_eq_some, ne_comm]

/-- What a draft has for a setting. -/
def Draft.get (d : Draft) : Name → Text
  | .inputDir => d.inputDir
  | .outputDir => d.outputDir
  | .template => d.template
  | .classPrefix => d.classPrefix
  | .displayLocale => d.displayLocale

theorem Draft.get_set (d : Draft) (n m : Name) (t : Text) :
    (d.set n t).get m = if m = n then t else d.get m := by
  cases n <;> cases m <;> rfl

/-- What entries give to a setting, over what a draft has for it. -/
def Draft.valueAfter (d : Draft) (entries : List (Text × Given)) (n : Name) : Text :=
  match entries.lookup n.label with
  | some (.text t) => t
  | _ => d.get n

/-- What is given to a setting; its default if nothing is. -/
def value (entries : List (Text × Given)) : Name → Text :=
  Draft.valueAfter {} entries

theorem Draft.valueAfter_cons (hn : n.label ∉ entries.map (·.1)) (m : Name) :
    d.valueAfter ((n.label, .text t) :: entries) m = (d.set n t).valueAfter entries m := by
  unfold valueAfter
  rw [get_set, List.lookup_cons]
  by_cases hm : m = n
  · subst hm
    have hnone : entries.lookup m.label = none := lookup_eq_none_iff.mpr hn
    simp [hnone]
  · have hlabel : (m.label == n.label) = false :=
      beq_false_of_ne fun h => hm (Name.label_injective h)
    simp only [hlabel, if_neg hm]

/-- What is given is the same in every order. -/
theorem value_of_perm (hmapping : (entries.map (·.1)).Nodup) (h : entries.Perm entries') :
    value entries' = value entries := by
  funext n
  rw [value, Draft.valueAfter, lookup_perm hmapping h]
  rfl

/-! ### Entries -/

/-- An entry that gives a text to a setting. -/
def Fits (e : Text × Given) : Prop :=
  (∃ n : Name, e.1 = n.label) ∧ ∃ t, e.2 = .text t

/-- What is said of an entry that gives no text to a setting. -/
inductive Misfit (source : Option Text) : Text × Given → Failure → Prop
  | unknown {label : Text} {given : Given} (h : ∀ n : Name, label ≠ n.label) :
      Misfit source (label, given) (.invalidSettings ("unknown setting '" ++ label ++ "'") source)
  | notText {n : Name} :
      Misfit source (n.label, .other)
        (.invalidSettings ("'" ++ n.label ++ "' must be a string") source)

theorem Misfit.not_fits {e : Text × Given} {f : Failure} (h : Misfit source e f) : ¬Fits e := by
  rintro ⟨⟨n, hn⟩, t, ht⟩
  cases h with
  | unknown h => exact h n hn
  | notText => exact absurd ht (by simp)

theorem draftFrom_cases (hmapping : (entries.map (·.1)).Nodup) (source : Option Text) (d : Draft) :
    ((∀ e ∈ entries, Fits e) ∧ ∃ d', draftFrom source d entries = .ok d' ∧
      ∀ n, d'.get n = d.valueAfter entries n) ∨
    (∃ e f, IsFirst (fun e => ¬Fits e) entries e ∧ Misfit source e f ∧
      draftFrom source d entries = .error f) := by
  induction entries generalizing d with
  | nil => exact .inl ⟨by simp, d, rfl, fun _ => rfl⟩
  | cons e entries ih =>
    obtain ⟨label, given⟩ := e
    -- A refused entry is the first that does not fit, since the entries before it are done.
    have hrefused {f : Failure} (h : Misfit source (label, given) f)
        (hf : draftFrom source d ((label, given) :: entries) = .error f) :
        ∃ e f, IsFirst (fun e => ¬Fits e) ((label, given) :: entries) e ∧ Misfit source e f ∧
          draftFrom source d ((label, given) :: entries) = .error f :=
      ⟨_, f, isFirst_cons.mpr (.inl ⟨h.not_fits, rfl⟩), h, hf⟩
    cases hlabel : Name.ofLabel? label with
    | none =>
      have hunknown := ofLabel?_eq_none.mp hlabel
      exact .inr (hrefused (.unknown hunknown) (by simp [draftFrom, hlabel]))
    | some n =>
      obtain rfl := ofLabel?_eq_some.mp hlabel
      cases given with
      | other => exact .inr (hrefused .notText (by simp [draftFrom, hlabel]))
      | text t =>
        rw [List.map_cons, List.nodup_cons] at hmapping
        have hfits : Fits (n.label, .text t) := ⟨⟨n, rfl⟩, t, rfl⟩
        have hnext : draftFrom source d ((n.label, .text t) :: entries) =
            draftFrom source (d.set n t) entries := by
          simp [draftFrom, hlabel]
        rw [hnext]
        rcases ih hmapping.2 (d.set n t) with ⟨hall, d', hd', hget⟩ | ⟨e, f, hfirst, hf⟩
        · refine .inl ⟨List.forall_mem_cons.mpr ⟨hfits, hall⟩, d', hd', fun m => ?_⟩
          rw [hget m, Draft.valueAfter_cons hmapping.1]
        · exact .inr ⟨e, f, isFirst_cons.mpr (.inr ⟨not_not.mpr hfits, hfirst⟩), hf⟩

/-! ### The checks -/

theorem isFileName_iff : isFileName t = true ↔ Path.IsPart t := by
  unfold isFileName
  rw [Bool.and_eq_true, bne_iff_ne, beq_iff_eq]
  constructor
  · rintro ⟨hne, hname⟩
    have hmem : t ∈ (Path.ofText t).parts := by
      rw [Path.name, List.getLastD_eq_getLast?] at hname
      cases hlast : (Path.ofText t).parts.getLast? with
      | none => rw [hlast] at hname; exact absurd hname.symm hne
      | some part =>
        rw [hlast] at hname
        obtain rfl : part = t := hname
        exact List.mem_of_getLast? hlast
    exact Path.isPart_of_mem_ofText hmem
  · intro h
    refine ⟨h.nonempty, ?_⟩
    rw [Disk.ofText_part h]
    rfl

/-- Two dots are a file name; a name with a slash behind it is none. -/
example : isFileName ".." = true ∧ isFileName "en/" = false := by decide

/-- Settings that have a text for a setting. Directories are paths in normal form. -/
def Has (s : Settings) : Name → Text → Prop
  | .inputDir, t => s.inputDir = Path.ofText t
  | .outputDir, t => s.outputDir = Path.ofText t
  | .template, t => s.template = t
  | .classPrefix, t => s.classPrefix.text = t
  | .displayLocale, t => s.displayLocale = t

theorem eq_of_has {s s' : Settings} {values : Name → Text} (h : ∀ n, s.Has n (values n))
    (h' : ∀ n, s'.Has n (values n)) : s = s' := by
  obtain ⟨inputDir, outputDir, template, ⟨classPrefix, accepted⟩, displayLocale⟩ := s
  obtain ⟨inputDir', outputDir', template', ⟨classPrefix', accepted'⟩, displayLocale'⟩ := s'
  obtain rfl : inputDir = inputDir' := (h .inputDir).trans (h' .inputDir).symm
  obtain rfl : outputDir = outputDir' := (h .outputDir).trans (h' .outputDir).symm
  obtain rfl : template = template' := (h .template).trans (h' .template).symm
  obtain rfl : classPrefix = classPrefix' := (h .classPrefix).trans (h' .classPrefix).symm
  obtain rfl : displayLocale = displayLocale' := (h .displayLocale).trans (h' .displayLocale).symm
  rfl

/-- What is said of values that are refused: of the template, or, if that is a file name, of the
class prefix. -/
inductive Misvalued (values : Name → Text) : Failure → Prop
  | template (h : ¬Path.IsPart (values .template)) :
      Misvalued values (.invalidSettings
        ("template must be a file name, got " ++ (values .template).quoted) none)
  | classPrefix (htemplate : Path.IsPart (values .template))
      (h : Identifier.isClassPrefix (values .classPrefix) = false) :
      Misvalued values (.invalidSettings
        ("class-prefix must be an ASCII identifier, got " ++ (values .classPrefix).quoted) none)

theorem check_cases (d : Draft) :
    (Path.IsPart d.template ∧ Identifier.isClassPrefix d.classPrefix = true ∧
      ∃ s, d.check = .ok s ∧ ∀ n, s.Has n (d.get n)) ∨
    (∃ f, Misvalued d.get f ∧ d.check = .error f) := by
  unfold Draft.check
  by_cases htemplate : Path.IsPart d.template
  · rw [isFileName_iff.mpr htemplate, ClassPrefix.ofText?]
    by_cases hprefix : Identifier.isClassPrefix d.classPrefix = true
    · rw [dif_pos hprefix]
      refine .inl ⟨htemplate, hprefix, _, rfl, fun n => ?_⟩
      cases n <;> rfl
    · rw [dif_neg hprefix]
      exact .inr ⟨_, .classPrefix htemplate (Bool.eq_false_of_not_eq_true hprefix), rfl⟩
  · have hfile : isFileName d.template = false := by
      rwa [← Bool.not_eq_true, isFileName_iff]
    rw [hfile]
    exact .inr ⟨_, .template htemplate, rfl⟩

/-! ### Acceptance and refusal -/

/-- Entries that make settings. -/
structure Acceptable (entries : List (Text × Given)) : Prop where
  fits : ∀ e ∈ entries, Fits e
  template : Path.IsPart (value entries .template)
  classPrefix : Identifier.isClassPrefix (value entries .classPrefix) = true

/-- What is said of entries that are refused: of the first that gives no text to a setting, or, if
all do, of the values. -/
inductive Refusal (source : Option Text) (entries : List (Text × Given)) : Failure → Prop
  | entry {e : Text × Given} {f : Failure} (first : IsFirst (fun e => ¬Fits e) entries e)
      (h : Misfit source e f) : Refusal source entries f
  | value {f : Failure} (fits : ∀ e ∈ entries, Fits e) (h : Misvalued (value entries) f) :
      Refusal source entries f

theorem Refusal.not_acceptable {f : Failure} (h : Refusal source entries f) :
    ¬Acceptable entries := by
  intro haccept
  cases h with
  | entry first _ => exact first.holds (haccept.fits _ first.mem)
  | value _ h =>
    cases h with
    | template h => exact h haccept.template
    | classPrefix _ h => exact absurd haccept.classPrefix (by simp [h])

theorem ofEntries_cases (hmapping : (entries.map (·.1)).Nodup) (source : Option Text) :
    (Acceptable entries ∧ ∃ s, ofEntries source entries = .ok s ∧ ∀ n, s.Has n (value entries n)) ∨
    (∃ f, Refusal source entries f ∧ ofEntries source entries = .error f) := by
  unfold ofEntries
  rcases draftFrom_cases hmapping source {} with ⟨hall, d, hd, hget⟩ | ⟨e, f, hfirst, hf, herr⟩
  · have hvalue : d.get = value entries := funext hget
    rw [hd]
    show (_ ∧ ∃ s, d.check = _ ∧ _) ∨ (∃ f, _ ∧ d.check = _)
    rw [← hvalue]
    rcases check_cases d with ⟨htemplate, hprefix, s, hs, hhas⟩ | ⟨f, hf, herr⟩
    · refine .inl ⟨⟨hall, ?_, ?_⟩, s, hs, hhas⟩
      · rwa [← hvalue]
      · rwa [← hvalue]
    · exact .inr ⟨f, .value hall (hvalue ▸ hf), herr⟩
  · exact .inr ⟨f, .entry hfirst hf, by rw [herr]; rfl⟩

theorem Acceptable.of_perm (hmapping : (entries.map (·.1)).Nodup) (h : entries.Perm entries')
    (haccept : Acceptable entries) : Acceptable entries' := by
  have hvalue := value_of_perm hmapping h
  refine ⟨fun e he => haccept.fits e (h.mem_iff.mpr he), ?_, ?_⟩
  · rw [hvalue]; exact haccept.template
  · rw [hvalue]; exact haccept.classPrefix

/-- Entries with distinct labels make settings exactly if each gives a text to a setting, the
template is a plain file name and the class prefix can begin names. The settings have what is given
and defaults elsewhere, and other orders of the entries make the same. Otherwise the first wrong
entry is reported, or, if there is none, the template before the class prefix. -/
theorem ofEntries_exact (hmapping : (entries.map (·.1)).Nodup) (source : Option Text) :
    ((∃ s, ofEntries source entries = .ok s) ↔ Acceptable entries) ∧
    (∀ s, ofEntries source entries = .ok s → (∀ n, s.Has n (value entries n)) ∧
      ∀ entries', entries.Perm entries' → ofEntries source entries' = .ok s) ∧
    (∀ f, ofEntries source entries = .error f → Refusal source entries f) := by
  rcases ofEntries_cases hmapping source with ⟨haccept, s, hs, hhas⟩ | ⟨f, hf, herr⟩
  · refine ⟨iff_of_true ⟨s, hs⟩ haccept, fun s' hs' => ?_, fun f hf => absurd hf (by simp [hs])⟩
    obtain rfl : s = s' := Except.ok.inj (hs.symm.trans hs')
    refine ⟨hhas, fun entries' hperm => ?_⟩
    have haccept' := haccept.of_perm hmapping hperm
    rcases ofEntries_cases ((hperm.map _).nodup hmapping) source with
      ⟨_, s', hs', hhas'⟩ | ⟨f, hf, _⟩
    · rw [value_of_perm hmapping hperm] at hhas'
      rw [hs', eq_of_has hhas' hhas]
    · exact absurd haccept' hf.not_acceptable
  · refine ⟨iff_of_false ?_ hf.not_acceptable, fun s hs => absurd hs (by simp [herr]), ?_⟩
    · rintro ⟨s, hs⟩
      exact absurd hs (by simp [herr])
    · intro f' hf'
      obtain rfl : f = f' := Except.error.inj (herr.symm.trans hf')
      exact hf

theorem ofEntries_exact_upward :
    ∃ s, ofEntries none [("template", .text ".."), ("input-dir", .text "texts//./")] = .ok s ∧
      ofEntries none [("input-dir", .text "texts//./"), ("template", .text "..")] = .ok s ∧
      s.template = Text.ofString ".." ∧ s.inputDir = ⟨.relative, ["texts"]⟩ ∧
      s.outputDir = ⟨.relative, ["locale-output"]⟩ := by
  have hfits : ∀ e ∈ [(Text.ofString "template", Given.text ".."),
      ("input-dir", .text "texts//./")], Fits e := by
    rw [List.forall_mem_cons, List.forall_mem_singleton]
    exact ⟨⟨⟨.template, rfl⟩, _, rfl⟩, ⟨.inputDir, rfl⟩, _, rfl⟩
  have hmapping : (List.map (·.1) [(Text.ofString "template", Given.text ".."),
      ("input-dir", .text "texts//./")]).Nodup := by
    decide
  obtain ⟨haccepts, hmade, _⟩ := ofEntries_exact hmapping none
  obtain ⟨s, hs⟩ := haccepts.mpr
    ⟨hfits, isFileName_iff.mp (by decide), by decide +kernel⟩
  obtain ⟨hhas, horder⟩ := hmade s hs
  refine ⟨s, hs, horder _ (List.Perm.swap ..), hhas .template, ?_, ?_⟩
  · rw [hhas .inputDir]
    decide
  · rw [hhas .outputDir]
    decide

end Phrasebook.Settings
