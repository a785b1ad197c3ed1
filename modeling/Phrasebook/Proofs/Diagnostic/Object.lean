import Mathlib
import Phrasebook.Diagnostic.Format
import Phrasebook.Proofs.Json.Written
import Phrasebook.Proofs.Outcome

/-! The JSON form of a diagnostic. It is one line, and a reader finds in it an object that tells
what the diagnostic does. Lines of several diagnostics come apart again. -/

namespace Phrasebook.Diagnostic

/-- A diagnostic whose texts are without surrogates. -/
structure IsEncodable (d : Diagnostic) : Prop where
  message : d.message.IsEncodable
  severity : d.severity.label.IsEncodable
  hint : ∀ t ∈ d.hint, t.IsEncodable
  sourcePath : ∀ t ∈ d.sourcePath, t.IsEncodable
  localeCode : ∀ t ∈ d.localeCode, t.IsEncodable
  key : ∀ t ∈ d.key, t.IsEncodable

/-- What a diagnostic tells under a name. An optional text is told where there is one that is not
empty. -/
inductive Tells (d : Diagnostic) : Text → Json → Prop
  | code : d.Tells "code" (.text d.code.label)
  | number : d.Tells "code_value" (.integer d.code.number)
  | message : d.Tells "message" (.text d.message)
  | severity : d.Tells "severity" (.text d.severity.label)
  | sourcePath {t : Text} (h : d.sourcePath = some t) (hne : t ≠ []) :
      d.Tells "source_path" (.text t)
  | localeCode {t : Text} (h : d.localeCode = some t) (hne : t ≠ []) :
      d.Tells "locale_code" (.text t)
  | key {t : Text} (h : d.key = some t) (hne : t ≠ []) : d.Tells "key" (.text t)
  | hint {t : Text} (h : d.hint = some t) (hne : t ≠ []) : d.Tells "hint" (.text t)

variable {d : Diagnostic} {name : Text}

theorem nonempty?_eq_some {o : Option Text} {t : Text} :
    nonempty? o = some t ↔ o = some t ∧ t ≠ [] := by
  unfold nonempty?
  split
  next c x =>
    constructor
    · rintro ⟨⟩
      exact ⟨rfl, List.cons_ne_nil c x⟩
    · rintro ⟨⟨⟩, _⟩
      rfl
  next hempty =>
    simp only [reduceCtorEq, false_iff, not_and, not_not]
    rintro rfl
    cases t with
    | nil => rfl
    | cons c x => exact absurd rfl (hempty c x)

theorem mem_optionalMember {o : Option Text} {m : Text × Json} :
    m ∈ optionalMember name o ↔ ∃ t, o = some t ∧ t ≠ [] ∧ m = (name, .text t) := by
  simp only [optionalMember, List.mem_map, Option.mem_toList, nonempty?_eq_some]
  constructor
  · rintro ⟨t, ⟨h, hne⟩, rfl⟩
    exact ⟨t, h, hne, rfl⟩
  · rintro ⟨t, h, hne, rfl⟩
    exact ⟨t, ⟨h, hne⟩, rfl⟩

theorem mem_members {v : Json} : (name, v) ∈ d.members ↔ d.Tells name v := by
  simp only [members, List.mem_append, List.mem_cons, List.not_mem_nil, or_false,
    mem_optionalMember, Prod.mk.injEq]
  constructor
  · rintro ((((h | ⟨t, h, hne, rfl, rfl⟩) | ⟨t, h, hne, rfl, rfl⟩) | ⟨t, h, hne, rfl, rfl⟩) |
      ⟨t, h, hne, rfl, rfl⟩)
    · obtain ⟨rfl, rfl⟩ | ⟨rfl, rfl⟩ | ⟨rfl, rfl⟩ | ⟨rfl, rfl⟩ := h
      · exact .code
      · exact .number
      · exact .message
      · exact .severity
    · exact .sourcePath h hne
    · exact .localeCode h hne
    · exact .key h hne
    · exact .hint h hne
  · intro h
    cases h <;> simp_all

/-- The names that members may have. -/
def memberNames : List Text :=
  List.map Text.ofString
    ["code", "code_value", "message", "severity", "source_path", "locale_code", "key", "hint"]

theorem nodup_members (d : Diagnostic) : (d.members.map (·.1)).Nodup := by
  have hoptional (name : Text) (o : Option Text) :
      ((optionalMember name o).map (·.1)).Sublist [name] := by
    unfold optionalMember
    cases nonempty? o <;> simp
  have hsub : (d.members.map (·.1)).Sublist memberNames := by
    simp only [members, List.map_append]
    exact ((((List.Sublist.refl _).append (hoptional _ _)).append (hoptional _ _)).append
      (hoptional _ _)).append (hoptional _ _)
  have hnodup : memberNames.Nodup := by decide
  exact hsub.nodup hnodup

theorem writable_of_tells {room : Nat} {v : Json} (hd : d.IsEncodable) (h : d.Tells name v) :
    name.IsEncodable ∧ v.Writable room := by
  cases h with
  | code => exact ⟨by simp, .text (by cases d.code <;> simp [Code.label])⟩
  | number => exact ⟨by simp, .integer (by cases d.code <;> decide)⟩
  | message => exact ⟨by simp, .text hd.message⟩
  | severity => exact ⟨by simp, .text hd.severity⟩
  | sourcePath h => exact ⟨by simp, .text (hd.sourcePath _ h)⟩
  | localeCode h => exact ⟨by simp, .text (hd.localeCode _ h)⟩
  | key h => exact ⟨by simp, .text (hd.key _ h)⟩
  | hint h => exact ⟨by simp, .text (hd.hint _ h)⟩

theorem writable_object (hd : d.IsEncodable) :
    Json.Writable Json.maxDepth (.object d.members) := by
  have htold : ∀ m ∈ d.members, m.1.IsEncodable ∧ m.2.Writable 999 :=
    fun _ hm => writable_of_tells hd (mem_members.mp hm)
  exact .object (nodup_members d) (fun m hm => (htold m hm).1) fun m hm => (htold m hm).2

theorem Code.ofLabel?_label (c : Code) : Code.ofLabel? c.label = some c := by
  cases c <;> decide +kernel

/-- The code of a diagnostic is the one that is found by the label that is told of it. -/
theorem Code.ofLabel?_eq_some {c : Code} {t : Text} : Code.ofLabel? t = some c ↔ c.label = t :=
  find?_label_eq_some c.ofLabel?_label

theorem Severity.label_ofLabel (t : Text) : (Severity.ofLabel t).label = t := by
  unfold Severity.ofLabel
  split_ifs with herror hwarning
  · exact herror.symm
  · exact hwarning.symm
  · rfl

/-- The severity that is told is that of the diagnostic, unless it is a named one with the name of
another. -/
theorem Severity.ofLabel_label_iff {s : Severity} :
    Severity.ofLabel s.label = s ↔ s ≠ .named "error" ∧ s ≠ .named "warning" := by
  cases s with
  | error => decide
  | warning => decide
  | named t =>
    show Severity.ofLabel t = .named t ↔ _
    unfold Severity.ofLabel
    split_ifs with herror hwarning
    · obtain rfl : t = "error" := herror
      simp
    · obtain rfl : t = "warning" := hwarning
      simp
    · exact iff_of_true rfl ⟨fun h => herror (named.inj h), fun h => hwarning (named.inj h)⟩

theorem not_control_json (colour : Bool) (d : Diagnostic) :
    ∀ c ∈ d.formatted .json colour, 0x20 ≤ c.val :=
  Json.not_control_written (.object d.members)

theorem splitWhere_formattedAll {ds : List Diagnostic} (h : ds ≠ []) (colour : Bool) :
    (formattedAll .json colour ds).splitWhere (· = '\n') = ds.map (formatted .json colour) := by
  have hlines : ∀ line ∈ ds.map (formatted .json colour), ∀ c ∈ line,
      decide (c = '\n') = false := by
    intro line hline c hc
    obtain ⟨d, _, rfl⟩ := List.mem_map.mp hline
    have hcontrol := not_control_json colour d c hc
    rw [decide_eq_false_iff_not]
    rintro rfl
    exact absurd hcontrol (by decide)
  exact Text.splitWhere_joined (by simpa using h) hlines (by decide)

/-- The JSON form of a diagnostic holds no control character below the blank, with or without
colour. A reader finds an object in it whose members are what the diagnostic tells, each once. The
forms of several diagnostics are the lines of what is printed of them. -/
theorem json_reads_back (hd : d.IsEncodable) {ds : List Diagnostic} (hds : ds ≠ [])
    (colour : Bool) :
    (∀ c ∈ d.formatted .json colour, 0x20 ≤ c.val) ∧
    (∃ document members, (d.formatted .json colour).toChars? = some document ∧
      Json.read document = .ok (.object members) ∧ (members.map (·.1)).Nodup ∧
      ∀ name v, (name, v) ∈ members ↔ d.Tells name v) ∧
    (formattedAll .json colour ds).splitWhere (· = '\n') = ds.map (formatted .json colour) := by
  have hobject := writable_object hd
  exact ⟨not_control_json colour d,
    ⟨_, d.members, hobject.isEncodable.toChars?_eq, Json.read_written hobject, nodup_members d,
      fun _ _ => mem_members⟩,
    splitWhere_formattedAll hds colour⟩

/-- A diagnostic with texts that need every kind of escape, and with an empty hint. -/
def awkward : Diagnostic where
  code := .invalidKey
  message := "say \"no\\yes\"\r\n\t\x00\x08\x0c\x1f\x7f/\u2028 é 😀"
  hint := some []
  localeCode := some "fr"
  key := some "\n\n"
  severity := .warning

theorem json_reads_back_awkward : awkward.IsEncodable ∧ [awkward, awkward] ≠ [] ∧
    (∃ document members, (awkward.formatted .json true).toChars? = some document ∧
      Json.read document = .ok (.object members) ∧
      (Text.ofString "key", Json.text "\n\n") ∈ members ∧
      ∀ v, (Text.ofString "hint", v) ∉ members) ∧
    (formattedAll .json true [awkward, awkward]).splitWhere (· = '\n') =
      [awkward.formatted .json true, awkward.formatted .json true] := by
  have hencodable : awkward.IsEncodable :=
    ⟨by decide, by decide, by decide, by decide, by decide, by decide⟩
  have hne : [awkward, awkward] ≠ [] := List.cons_ne_nil _ _
  obtain ⟨_, ⟨document, members, hdocument, hread, _, htells⟩, hlines⟩ :=
    json_reads_back hencodable hne true
  refine ⟨hencodable, hne, ⟨document, members, hdocument, hread, ?_, ?_⟩, hlines⟩
  · rw [htells]
    exact .key rfl (by decide)
  · intro v hv
    rw [htells] at hv
    generalize hname : Text.ofString "hint" = name at hv
    cases hv with
    | hint h hne => exact hne (Option.some.inj h).symm
    | _ => exact absurd hname (by decide)

end Phrasebook.Diagnostic
