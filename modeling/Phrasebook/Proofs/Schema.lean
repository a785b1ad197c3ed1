import Mathlib
import Phrasebook.Failure.Report
import Phrasebook.Proofs.Outcome
import Phrasebook.Schema

/-! What the schema accepts: templates whose keys can name accessors, and files that keep to the
template's keys and, where regions fall back to them, have them all. Of files that it refuses, the
first is reported with the first key that is wrong. -/

namespace Phrasebook.Schema

variable {s : Schema} {t : PhraseSet}

/-- What is asked of the keys of a file by its locale. -/
structure Accepts (s : Schema) (t : PhraseSet) : Prop where
  known : ∀ key ∈ t.keys, key ∈ s.keys
  complete : t.locale.isDefault = true → ∀ key ∈ s.keys, key ∈ t.keys

/-- What is wrong with a file that the schema refuses: its first unknown key; or, if it has none,
the first key of the schema that it lacks. -/
inductive Fault (s : Schema) (t : PhraseSet) : Failure → Prop
  | unknown {key : Text} (first : IsFirst (fun key => key ∉ s.keys) t.keys key) :
    Fault s t (.unknownKey key t.path.toText)
  | missing {key : Text} (known : ∀ key ∈ t.keys, key ∈ s.keys)
      (isDefault : t.locale.isDefault = true)
      (first : IsFirst (fun key => key ∉ t.keys) s.keys key) :
    Fault s t (.missingKey key t.path.toText)

theorem Fault.not_accepts {f : Failure} (h : s.Fault t f) : ¬s.Accepts t := by
  intro haccepts
  cases h with
  | unknown first => exact first.holds (haccepts.known _ first.mem)
  | missing _ isDefault first => exact first.holds (haccepts.complete isDefault _ first.mem)

theorem Fault.kind_mem {f : Failure} (h : s.Fault t f) : f.kind ∈ [.unknownKey, .missingKey] := by
  cases h <;> simp [Failure.kind]

theorem Fault.unique {f f' : Failure} (h : s.Fault t f) (h' : s.Fault t f') : f = f' := by
  cases h with
  | unknown first =>
    cases h' with
    | unknown first' => rw [first.unique first']
    | missing known _ _ => exact absurd (known _ first.mem) first.holds
  | missing known _ first =>
    cases h' with
    | unknown first' => exact absurd (known _ first'.mem) first'.holds
    | missing _ _ first' => rw [first.unique first']

theorem find?_not_cases (p : Text → Bool) (keys : List Text) :
    ((∀ key ∈ keys, p key = true) ∧ keys.find? (fun key => !p key) = none) ∨
    (∃ key, IsFirst (fun key => ¬p key = true) keys key ∧
      keys.find? (fun key => !p key) = some key) := by
  cases hfind : keys.find? fun key => !p key with
  | none =>
    rw [List.find?_eq_none] at hfind
    exact .inl ⟨fun key hkey => by simpa using hfind key hkey, rfl⟩
  | some key =>
    rw [find?_eq_some_iff_isFirst] at hfind
    exact .inr ⟨key, by simpa using hfind, rfl⟩

theorem ofTemplate_cases (t : PhraseSet) :
    ((∀ key ∈ t.keys, Identifier.isAccessor key = true) ∧
      ofTemplate t = .ok ⟨t.locale, t.path, t.keys⟩) ∨
    (∃ key, IsFirst (fun key => ¬Identifier.isAccessor key = true) t.keys key ∧
      ofTemplate t = .error (.invalidKey key t.path.toText)) := by
  unfold ofTemplate
  rcases find?_not_cases Identifier.isAccessor t.keys with ⟨hall, h⟩ | ⟨key, hfirst, h⟩
  · exact .inl ⟨hall, by rw [h]⟩
  · exact .inr ⟨key, hfirst, by rw [h]⟩

theorem ofTemplate_of_isAccessor (h : ∀ key ∈ t.keys, Identifier.isAccessor key = true) :
    ofTemplate t = .ok ⟨t.locale, t.path, t.keys⟩ := by
  rcases ofTemplate_cases t with ⟨_, hok⟩ | ⟨key, hfirst, _⟩
  · exact hok
  · exact absurd (h key hfirst.mem) hfirst.holds

theorem checkKnown_cases (s : Schema) (t : PhraseSet) :
    ((∀ key ∈ t.keys, key ∈ s.keys) ∧ s.checkKnown t = .ok ()) ∨
    (∃ key, IsFirst (fun key => key ∉ s.keys) t.keys key ∧
      s.checkKnown t = .error (.unknownKey key t.path.toText)) := by
  unfold checkKnown
  have hmem (key : Text) : key ∈ s.keys ↔ s.keys.contains key = true :=
    List.contains_iff_mem.symm
  simp only [hmem]
  rcases find?_not_cases s.keys.contains t.keys with ⟨hall, h⟩ | ⟨key, hfirst, h⟩
  · exact .inl ⟨hall, by rw [h]⟩
  · exact .inr ⟨key, hfirst, by rw [h]⟩

theorem checkComplete_cases (s : Schema) (t : PhraseSet) :
    ((∀ key ∈ s.keys, key ∈ t.keys) ∧ s.checkComplete t = .ok ()) ∨
    (∃ key, IsFirst (fun key => key ∉ t.keys) s.keys key ∧
      s.checkComplete t = .error (.missingKey key t.path.toText)) := by
  unfold checkComplete
  have hmem (key : Text) : key ∈ t.keys ↔ t.keys.contains key = true :=
    List.contains_iff_mem.symm
  simp only [hmem]
  rcases find?_not_cases t.keys.contains s.keys with ⟨hall, h⟩ | ⟨key, hfirst, h⟩
  · exact .inl ⟨hall, by rw [h]⟩
  · exact .inr ⟨key, hfirst, by rw [h]⟩

/-- A file passes exactly if the schema accepts it; otherwise its fault is reported. -/
theorem check_cases (s : Schema) (t : PhraseSet) :
    (s.Accepts t ∧ s.check t = .ok ()) ∨ (∃ f, s.Fault t f ∧ s.check t = .error f) := by
  unfold check
  rcases checkKnown_cases s t with ⟨hknown, hk⟩ | ⟨key, hfirst, hk⟩
  · rw [hk]
    by_cases hd : t.locale.isDefault = true
    · rcases checkComplete_cases s t with ⟨hcomplete, hc⟩ | ⟨key, hfirst, hc⟩
      · refine .inl ⟨⟨hknown, fun _ => hcomplete⟩, ?_⟩
        simp [hd, hc, bind, Except.bind]
      · refine .inr ⟨_, .missing hknown hd hfirst, ?_⟩
        simp [hd, hc, bind, Except.bind]
    · refine .inl ⟨⟨hknown, fun h => absurd h hd⟩, ?_⟩
      simp [hd, bind, Except.bind, pure, Except.pure]
  · refine .inr ⟨_, .unknown hfirst, ?_⟩
    simp [hk, bind, Except.bind]

theorem outcome_checkAll_cons (s : Schema) (t : PhraseSet) (ts : List PhraseSet) :
    (s.checkAll (t :: ts)).outcome =
      Trouble.ofFailure (s.check t) >>= fun _ => (s.checkAll ts).outcome := by
  cases hcheck : s.check t with
  | error f =>
    simp only [checkAll, hcheck, Traced.outcome_throw]
    rfl
  | ok u =>
    simp only [checkAll, hcheck, Traced.outcome_bind, Traced.outcome_note, Trouble.ofFailure]

/-- All files pass exactly if the schema accepts each; otherwise the fault of the first one that it
refuses is reported. -/
theorem checkAll_cases (s : Schema) (ts : List PhraseSet) :
    ((∀ t ∈ ts, s.Accepts t) ∧ (s.checkAll ts).outcome = .ok ()) ∨
    (∃ t f, IsFirst (fun t => ¬s.Accepts t) ts t ∧ s.Fault t f ∧
      (s.checkAll ts).outcome = .error (.failure f)) := by
  induction ts with
  | nil => exact .inl ⟨by simp, rfl⟩
  | cons t ts ih =>
    rw [outcome_checkAll_cons]
    rcases check_cases s t with ⟨haccepts, hcheck⟩ | ⟨f, hfault, hcheck⟩
    · rw [hcheck]
      rcases ih with ⟨hall, h⟩ | ⟨u, f, hfirst, hfault, h⟩
      · exact .inl ⟨List.forall_mem_cons.mpr ⟨haccepts, hall⟩, h⟩
      · exact .inr ⟨u, f, isFirst_cons.mpr (.inr ⟨not_not.mpr haccepts, hfirst⟩), hfault, h⟩
    · rw [hcheck]
      exact .inr ⟨t, f, isFirst_cons.mpr (.inl ⟨hfault.not_accepts, rfl⟩), hfault, rfl⟩

theorem checkAll_eq_ok_iff {ts : List PhraseSet} :
    (s.checkAll ts).outcome = .ok () ↔ ∀ t ∈ ts, s.Accepts t := by
  rcases checkAll_cases s ts with ⟨hall, hok⟩ | ⟨t, f, hfirst, _, herror⟩
  · exact ⟨fun _ => hall, fun _ => hok⟩
  · rw [herror]
    exact ⟨fun h => absurd h (by simp), fun hall => absurd (hall t hfirst.mem) hfirst.holds⟩

theorem checkAll_eq_error_iff {ts : List PhraseSet} {trouble : Trouble} :
    (s.checkAll ts).outcome = .error trouble ↔
      ∃ t f, IsFirst (fun t => ¬s.Accepts t) ts t ∧ s.Fault t f ∧ trouble = .failure f := by
  rcases checkAll_cases s ts with ⟨hall, hok⟩ | ⟨t, f, hfirst, hfault, herror⟩
  · rw [hok]
    simp only [reduceCtorEq, false_iff, not_exists, not_and]
    intro t f hfirst
    exact absurd (hall t hfirst.mem) hfirst.holds
  · rw [herror, Except.error.injEq]
    constructor
    · rintro rfl
      exact ⟨t, f, hfirst, hfault, rfl⟩
    · rintro ⟨t', f', hfirst', hfault', rfl⟩
      obtain rfl := hfirst.unique hfirst'
      rw [hfault.unique hfault']

theorem ofTemplate_ok (h : ofTemplate t = .ok s) : s = ⟨t.locale, t.path, t.keys⟩ := by
  rcases ofTemplate_cases t with ⟨_, hok⟩ | ⟨key, _, herror⟩
  · exact Except.ok.inj (h.symm.trans hok)
  · exact absurd h (by simp [herror])

/-! ### Files that were checked -/

/-- In a file of a language's default the schema's keys are all the keys there are. -/
theorem accepts_iff : s.Accepts t ↔ (∀ key ∈ t.keys, key ∈ s.keys) ∧
    (t.locale.region = none → ∀ key, key ∈ t.keys ↔ key ∈ s.keys) := by
  have hdefault : t.locale.isDefault = true ↔ t.locale.region = none := Option.isNone_iff_eq_none
  constructor
  · intro h
    exact ⟨h.known, fun hd key => ⟨h.known key, h.complete (hdefault.mpr hd) key⟩⟩
  · rintro ⟨hknown, hsame⟩
    exact ⟨hknown, fun hd key => (hsame (hdefault.mp hd) key).mpr⟩

theorem Fault.names_path {f : Failure} (h : s.Fault t f) :
    f.diagnostic.sourcePath = some t.path.toText ∧
      ∃ key, f.particulars = .key key t.path.toText := by
  cases h with
  | unknown _ => exact ⟨rfl, _, rfl⟩
  | missing _ _ _ => exact ⟨rfl, _, rfl⟩

theorem isAccessor_of_ofTemplate (h : ofTemplate t = .ok s) :
    ∀ key ∈ s.keys, Identifier.isAccessor key = true := by
  rcases ofTemplate_cases t with ⟨hall, hok⟩ | ⟨key, _, herror⟩
  · obtain rfl := Except.ok.inj (h.symm.trans hok)
    exact hall
  · exact absurd h (by simp [herror])

theorem isAccessor_of_accepts {template : PhraseSet} (h : ofTemplate template = .ok s)
    (haccepts : s.Accepts t) : ∀ key ∈ t.keys, Identifier.isAccessor key = true :=
  fun key hkey => isAccessor_of_ofTemplate h key (haccepts.known key hkey)

/-- Checking files is exact. They pass if each has no keys but those of the schema, and a file of a
language's default all of them; otherwise the fault of the first file that does not keep to this is
reported, with the file's path. Under the schema of a template, keys that passed name accessors. -/
theorem checkAll_exact (s : Schema) (ts : List PhraseSet) :
    ((s.checkAll ts).outcome = .ok () ↔ ∀ t ∈ ts, (∀ key ∈ t.keys, key ∈ s.keys) ∧
      (t.locale.region = none → ∀ key, key ∈ t.keys ↔ key ∈ s.keys)) ∧
    (∀ trouble, (s.checkAll ts).outcome = .error trouble ↔
      ∃ t f, IsFirst (fun t => ¬s.Accepts t) ts t ∧ s.Fault t f ∧ trouble = .failure f) ∧
    (∀ t f, s.Fault t f → f.diagnostic.sourcePath = some t.path.toText ∧
      ∃ key, f.particulars = .key key t.path.toText) ∧
    ∀ template, ofTemplate template = .ok s → (s.checkAll ts).outcome = .ok () →
      ∀ t ∈ ts, ∀ key ∈ t.keys, Identifier.isAccessor key = true := by
  refine ⟨?_, fun _ => checkAll_eq_error_iff, fun _ _ hfault => hfault.names_path, ?_⟩
  · simp only [checkAll_eq_ok_iff, accepts_iff]
  · intro template htemplate hok t ht
    exact isAccessor_of_accepts htemplate (checkAll_eq_ok_iff.mp hok t ht)

/-- An English template, a Canadian French file and a French one that lacks a key. -/
def english : PhraseSet :=
  ⟨⟨"en", none⟩, ⟨.relative, ["en.json"]⟩, [("hello", "Hello"), ("bye", "Goodbye")]⟩

def canadian : PhraseSet :=
  ⟨⟨"fr", some "CA"⟩, ⟨.relative, ["fr-CA.json"]⟩, [("bye", "Salut")]⟩

def french : PhraseSet :=
  ⟨⟨"fr", none⟩, ⟨.relative, ["fr.json"]⟩, [("bye", "Au revoir")]⟩

def englishSchema : Schema :=
  ⟨⟨"en", none⟩, ⟨.relative, ["en.json"]⟩, ["hello", "bye"]⟩

theorem checkAll_exact_french :
    ofTemplate english = .ok englishSchema ∧
    (englishSchema.checkAll [english, canadian]).outcome = .ok () ∧
    Identifier.isAccessor "bye" = true ∧
    (englishSchema.checkAll [english, canadian, french, english]).outcome =
      .error (.failure (.missingKey "hello" "fr.json")) ∧
    (Failure.missingKey "hello" "fr.json").diagnostic.sourcePath = some french.path.toText := by
  have htemplate : ofTemplate english = .ok englishSchema := by decide +kernel
  have hfault : englishSchema.Fault french (.missingKey "hello" "fr.json") :=
    .missing (by decide) (by decide) ⟨[], ["bye"], rfl, by decide, by simp⟩
  obtain ⟨hpasses, _, _, haccessors⟩ := checkAll_exact englishSchema [english, canadian]
  obtain ⟨_, hrefuses, hpath, _⟩ :=
    checkAll_exact englishSchema [english, canadian, french, english]
  have hok : (englishSchema.checkAll [english, canadian]).outcome = .ok () := by
    rw [hpasses, List.forall_mem_cons, List.forall_mem_singleton]
    exact ⟨⟨by decide, fun _ _ => Iff.rfl⟩, by decide, fun h => absurd h (by decide)⟩
  have hfirst : IsFirst (fun t => ¬englishSchema.Accepts t) [english, canadian, french, english]
      french := by
    refine ⟨[english, canadian], [english], rfl, hfault.not_accepts, ?_⟩
    exact fun t ht => not_not.mpr (checkAll_eq_ok_iff.mp hok t ht)
  exact ⟨htemplate, hok, haccessors english htemplate hok canadian (by simp) "bye" (by decide),
    (hrefuses _).mpr ⟨french, _, hfirst, hfault, rfl⟩, (hpath _ _ hfault).1⟩

end Phrasebook.Schema
